import SearchBuilder.Text.Hex

/-!
# String literals of JSON

`literal` writes a text in ASCII: the quote, the backslash and control characters are escaped, and
so is every character from U+007F on, as one or two UTF-16 units. `readLiteral` reads the rest of a
literal after its opening quote. It collects units first and joins surrogate pairs afterwards; a
surrogate without its partner has no character of its own and reads as U+FFFD.
-/

namespace SearchBuilder.Json

/-! ## Writing -/

/-- A UTF-16 unit as an escape. -/
def unitEscape (unit : Nat) : List Char := '\\' :: 'u' :: hexText 4 unit

/-- One character of a literal. -/
def literalChar (c : Char) : List Char :=
  if c = '"' then ['\\', '"']
  else if c = '\\' then ['\\', '\\']
  else if c = '\n' then ['\\', 'n']
  else if c = '\r' then ['\\', 'r']
  else if c = '\t' then ['\\', 't']
  else if c = '\x08' then ['\\', 'b']
  else if c = '\x0c' then ['\\', 'f']
  else if 0x20 ≤ c.toNat && c.toNat < 0x7F then [c]
  else if c.toNat < 0x10000 then unitEscape c.toNat
  else
    let n := c.toNat - 0x10000
    unitEscape (0xD800 + n / 0x400) ++ unitEscape (0xDC00 + n % 0x400)

/-- A text as a literal. -/
def literal (s : String) : List Char := '"' :: s.toList.flatMap literalChar ++ ['"']

/-! ## Reading -/

/-- What is wrong with a JSON text. -/
inductive Flaw where
  | noValue
  | noPropertyName
  | noColon
  | noComma
  | openString
  | controlCharacter
  | badEscape
  | badUnitEscape
  | extraData
  | byteOrderMark
  deriving DecidableEq, Repr

/-- A flaw and the number of characters from its place to the end of the text. -/
structure Misreading where
  flaw : Flaw
  remaining : Nat
  deriving DecidableEq, Repr

/-- Fails at the first of the characters given. -/
def misread {α : Type} (flaw : Flaw) (place : List Char) : Except Misreading α :=
  .error ⟨flaw, place.length⟩

/-- The character that a letter after a backslash stands for. -/
def escaped? : Char → Option Char
  | '"' => some '"'
  | '\\' => some '\\'
  | '/' => some '/'
  | 'b' => some '\x08'
  | 'f' => some '\x0c'
  | 'n' => some '\n'
  | 'r' => some '\r'
  | 't' => some '\t'
  | _ => none

/-- Whether a unit is the first of a surrogate pair. -/
def isHighSurrogate (unit : Nat) : Bool := 0xD800 ≤ unit && unit < 0xDC00

/-- Whether a unit is the second of a surrogate pair. -/
def isLowSurrogate (unit : Nat) : Bool := 0xDC00 ≤ unit && unit < 0xE000

/-- The character of one unit. -/
def charOfUnit (unit : Nat) : Char :=
  if isHighSurrogate unit || isLowSurrogate unit then '\uFFFD' else Char.ofNat unit

/-- Joins each pair of surrogates into one character. -/
def joinSurrogates : List Nat → List Char
  | [] => []
  | [unit] => [charOfUnit unit]
  | high :: low :: rest =>
    if isHighSurrogate high && isLowSurrogate low then
      Char.ofNat (0x10000 + (high - 0xD800) * 0x400 + (low - 0xDC00)) :: joinSurrogates rest
    else charOfUnit high :: joinSurrogates (low :: rest)

/-- The units of a literal up to its closing quote. `opening` is the number of characters from the
opening quote to the end of the text, where a literal that is never closed is reported. -/
def literalUnits (opening : Nat) : List Char → Except Misreading (List Nat × List Char)
  | [] => .error ⟨.openString, opening⟩
  | '"' :: rest => .ok ([], rest)
  | '\\' :: 'u' :: a :: b :: c :: d :: rest =>
    match hexNumber? [a, b, c, d], rest with
    | some unit, _ :: _ => do
      let (units, after) ← literalUnits opening rest
      .ok (unit :: units, after)
    | _, _ => misread .badUnitEscape ('u' :: a :: b :: c :: d :: rest)
  | ['\\'] => .error ⟨.openString, opening⟩
  | '\\' :: c :: rest =>
    match escaped? c with
    | some meant => do
      let (units, after) ← literalUnits opening rest
      .ok (meant.toNat :: units, after)
    | none =>
      if c = 'u' then misread .badUnitEscape (c :: rest) else misread .badEscape ('\\' :: c :: rest)
  | c :: rest =>
    if c.toNat < 0x20 then misread .controlCharacter (c :: rest)
    else do
      let (units, after) ← literalUnits opening rest
      .ok (c.toNat :: units, after)

/-- Reads the rest of a literal whose opening quote was just passed. -/
def readLiteral (s : List Char) : Except Misreading (String × List Char) := do
  let (units, after) ← literalUnits (s.length + 1) s
  .ok (String.ofList (joinSurrogates units), after)

end SearchBuilder.Json
