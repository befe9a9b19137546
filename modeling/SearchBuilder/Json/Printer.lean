import SearchBuilder.Json.Basic
import SearchBuilder.Json.StringLiteral
import SearchBuilder.Number.Notation

/-!
# Printed JSON

Documents are printed in ASCII on one line. `Spacing` holds what stands between items and after
keys: nothing but the mark in the compact form, a space after it in the spaced form that is sent
to servers. What is no JSON has no form of its own and is printed as messages show it; whether a
value can be written is a question of its own.
-/

namespace SearchBuilder.Json

/-- The separators of a printed form. -/
structure Spacing where
  item : List Char
  key : List Char

/-- The marks without spaces. -/
def Spacing.compact : Spacing := ⟨[','], [':']⟩

/-- The marks with a space behind each. -/
def Spacing.spaced : Spacing := ⟨[',', ' '], [':', ' ']⟩

mutual

/-- A value as JSON text. -/
def print (spacing : Spacing) : Json → List Char
  | .null => ['n', 'u', 'l', 'l']
  | .bool true => ['t', 'r', 'u', 'e']
  | .bool false => ['f', 'a', 'l', 's', 'e']
  | .int i => intText i
  | .float x => Layout.json.text x
  | .str s => literal s
  | .arr [] => ['[', ']']
  | .arr (item :: rest) => '[' :: print spacing item ++ printItems spacing rest ++ [']']
  | .obj [] => ['{', '}']
  | .obj ((key, value) :: rest) =>
    '{' :: literal key ++ spacing.key ++ print spacing value ++ printMembers spacing rest ++ ['}']
  | .foreign shown _ => shown.toList

/-- The items after the first, each behind a separator. -/
def printItems (spacing : Spacing) : List Json → List Char
  | [] => []
  | item :: rest => spacing.item ++ print spacing item ++ printItems spacing rest

/-- The members after the first, each behind a separator. -/
def printMembers (spacing : Spacing) : List (String × Json) → List Char
  | [] => []
  | (key, value) :: rest =>
    spacing.item ++ literal key ++ spacing.key ++ print spacing value ++
      printMembers spacing rest

end

/-- The text without spaces. -/
def compact (j : Json) : String := String.ofList (print .compact j)

/-- The text with a space after each separator. -/
def spaced (j : Json) : String := String.ofList (print .spaced j)

end SearchBuilder.Json
