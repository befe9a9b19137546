import SearchBuilder.Json.Basic
import SearchBuilder.Number.Notation
import SearchBuilder.Text.Quoted

/-!
# Values in messages and URL parameters

Log messages and URL parameters show values in a form of their own: capitalised constants, texts
in single quotes, and `inf` and `nan` for the doubles without digits. A text that is a parameter by
itself is shown without quotes.
-/

namespace SearchBuilder.Json

mutual

/-- A value as messages show it. -/
def display : Json → List Char
  | .null => "None".toList
  | .bool true => "True".toList
  | .bool false => "False".toList
  | .int i => intText i
  | .float x => Layout.display.text x
  | .str s => quoted s.toList
  | .arr items => '[' :: displayItems items ++ [']']
  | .obj members => '\x7b' :: displayMembers members ++ ['\x7d']
  | .foreign shown _ => shown.toList

/-- The items of a list as messages show them. -/
def displayItems : List Json → List Char
  | [] => []
  | [item] => display item
  | item :: next :: rest => display item ++ ',' :: ' ' :: displayItems (next :: rest)

/-- The members of an object as messages show them. -/
def displayMembers : List (String × Json) → List Char
  | [] => []
  | [(key, value)] => quoted key.toList ++ ':' :: ' ' :: display value
  | (key, value) :: next :: rest =>
    quoted key.toList ++ ':' :: ' ' :: display value ++ ',' :: ' ' :: displayMembers (next :: rest)

end

/-- A value as a URL parameter: texts stand as they are. -/
def plainText : Json → String
  | .str s => s
  | .foreign _ written => written
  | j => String.ofList (display j)

end SearchBuilder.Json
