import SearchBuilder.Json.Basic
import SearchBuilder.Json.StringLiteral
import SearchBuilder.Number.Notation

/-!
# Reading JSON

A strict reader: four kinds of white space, no trailing commas, no leading zeros, no names for
infinities. A number with a point or an exponent is a double, any other an integer. A repeated key
keeps its first position and takes its last value. A failure names the flaw and its place.
-/

namespace SearchBuilder.Json

/-- White space between the tokens of JSON. -/
def isSpace (c : Char) : Bool := c = ' ' || c = '\t' || c = '\n' || c = '\r'

/-- What follows white space. -/
def skipSpace (s : List Char) : List Char := s.dropWhile isSpace

/-- The number that a list of decimal digits stands for. -/
def digitsValue (digits : List Char) : Nat :=
  digits.foldl (fun n c => n * 10 + (c.toNat - '0'.toNat)) 0

/-- The digits of a whole part: a zero stands alone. -/
def readWhole : List Char → Option (List Char × List Char)
  | '0' :: rest => some (['0'], rest)
  | c :: rest => if c.isDigit then some ((c :: rest).span Char.isDigit) else none
  | [] => none

/-- The digits behind a point. A point without a digit behind it is not part of the number. -/
def readFraction (s : List Char) : Option (List Char × List Char) :=
  match s with
  | '.' :: c :: rest => if c.isDigit then some ((c :: rest).span Char.isDigit) else none
  | _ => none

/-- A signed exponent. A mark without a digit behind it is not part of the number. -/
def readExponent (s : List Char) : Option (Int × List Char) :=
  let signed (negative : Bool) (s : List Char) : Option (Int × List Char) :=
    match s.span Char.isDigit with
    | ([], _) => none
    | (digits, rest) =>
      let size : Int := digitsValue digits
      some (if negative then -size else size, rest)
  match s with
  | c :: rest =>
    if c = 'e' || c = 'E' then
      match rest with
      | '-' :: rest => signed true rest
      | '+' :: rest => signed false rest
      | _ => signed false rest
    else none
  | [] => none

/-- Reads a number. -/
def readNumber (s : List Char) : Except Misreading (Json × List Char) :=
  let (negative, body) := match s with
    | '-' :: rest => (true, rest)
    | _ => (false, s)
  match readWhole body with
  | none => misread .noValue s
  | some (whole, rest) =>
    let (fraction, afterFraction) := (readFraction rest).getD ([], rest)
    match readExponent afterFraction with
    | some (exponent, after) =>
      .ok (.float (.ofDecimal negative (digitsValue (whole ++ fraction))
        (exponent - fraction.length)), after)
    | none =>
      if fraction.isEmpty then
        let size : Int := digitsValue whole
        .ok (.int (if negative then -size else size), rest)
      else
        .ok (.float (.ofDecimal negative (digitsValue (whole ++ fraction))
          (-(fraction.length : Int))), afterFraction)

mutual

/-- Reads one value. At each character at most two of these readers are called, so a budget above
twice the length of the text is never used up. -/
def readValue : Nat → List Char → Except Misreading (Json × List Char)
  | 0, s => misread .noValue s
  | budget + 1, s =>
    match s with
    | '"' :: rest => do
      let (text, after) ← readLiteral rest
      .ok (.str text, after)
    | '[' :: rest =>
      match skipSpace rest with
      | ']' :: after => .ok (.arr [], after)
      | start => do
        let (items, after) ← readItems budget start
        .ok (.arr items, after)
    | '{' :: rest =>
      match skipSpace rest with
      | '}' :: after => .ok (.obj [], after)
      | start => do
        let (members, after) ← readMembers budget start
        .ok (.obj (Entries.ofList members), after)
    | 'n' :: 'u' :: 'l' :: 'l' :: rest => .ok (.null, rest)
    | 't' :: 'r' :: 'u' :: 'e' :: rest => .ok (.bool true, rest)
    | 'f' :: 'a' :: 'l' :: 's' :: 'e' :: rest => .ok (.bool false, rest)
    | _ => readNumber s

/-- Reads the items of a list up to its closing bracket. -/
def readItems : Nat → List Char → Except Misreading (List Json × List Char)
  | 0, s => misread .noValue s
  | budget + 1, s => do
    let (item, rest) ← readValue budget s
    match skipSpace rest with
    | ']' :: after => .ok ([item], after)
    | ',' :: next => do
      let (items, after) ← readItems budget (skipSpace next)
      .ok (item :: items, after)
    | other => misread .noComma other

/-- Reads the members of an object up to its closing brace. -/
def readMembers : Nat → List Char → Except Misreading (List (String × Json) × List Char)
  | 0, s => misread .noPropertyName s
  | budget + 1, s =>
    match s with
    | '"' :: rest => do
      let (key, rest) ← readLiteral rest
      match skipSpace rest with
      | ':' :: rest => do
        let (value, rest) ← readValue budget (skipSpace rest)
        match skipSpace rest with
        | '}' :: after => .ok ([(key, value)], after)
        | ',' :: next => do
          let (members, after) ← readMembers budget (skipSpace next)
          .ok ((key, value) :: members, after)
        | other => misread .noComma other
      | other => misread .noColon other
    | _ => misread .noPropertyName s

end

/-- Reads a text that holds one value and nothing else but white space. -/
def parse (s : List Char) : Except Misreading Json :=
  match s with
  | '\uFEFF' :: _ => misread .byteOrderMark s
  | _ => do
    let start := skipSpace s
    let (value, rest) ← readValue (2 * start.length + 1) start
    match skipSpace rest with
    | [] => .ok value
    | extra => misread .extraData extra

/-! ## Failures in words -/

/-- A flaw in words. -/
def Flaw.message : Flaw → String
  | .noValue => "Expecting value"
  | .noPropertyName => "Expecting property name enclosed in double quotes"
  | .noColon => "Expecting ':' delimiter"
  | .noComma => "Expecting ',' delimiter"
  | .openString => "Unterminated string starting at"
  | .controlCharacter => "Invalid control character at"
  | .badEscape => "Invalid \\escape"
  | .badUnitEscape => "Invalid \\uXXXX escape"
  | .extraData => "Extra data"
  | .byteOrderMark => "Unexpected UTF-8 BOM (decode using utf-8-sig)"

/-- The words for a failure in a text: lines and columns count from one, characters from zero. -/
def Misreading.message (m : Misreading) (text : List Char) : String :=
  let before := text.take (text.length - m.remaining)
  let line := before.count '\n' + 1
  let column := (before.reverse.takeWhile (· ≠ '\n')).length + 1
  s!"{m.flaw.message}: line {line} column {column} (char {before.length})"

end SearchBuilder.Json
