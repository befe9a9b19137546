/-!
# Places in YAML texts

A `Cursor` is a place in a text: what is left of it, the line and column, and whether the key of a
mapping may begin there. Structure follows from columns, so spaces and comments are skipped and a
tab between tokens is an error of whoever finds it. Line breaks are normalized before reading;
U+2028 and U+2029 stay what they are.
-/

namespace SearchBuilder.Yaml

/-- What is wrong with a text. -/
inductive Flaw where
  /-- The text has a character that may not occur anywhere. -/
  | unprintable
  /-- A token begins with a character that begins none. -/
  | badStart
  /-- A key or the dash of an item stands where none may begin. -/
  | misplaced
  /-- A line is indented in a way that fits no open collection. -/
  | badIndentation
  /-- A quotation or collection is not closed. -/
  | unclosed
  /-- A backslash is followed by something that it does not escape. -/
  | badEscape
  /-- A comma or a closing bracket is missing. -/
  | noComma
  /-- A key is a collection or has a special meaning. -/
  | badKey
  /-- A value has a special meaning. -/
  | badValue
  /-- A number has no digits behind the sign of its base. -/
  | noDigits (base : Nat)
  /-- There is more text after the document. -/
  | secondDocument
  deriving DecidableEq, Repr

/-- The words for a number without digits. -/
def noDigitsMessage (base : Nat) : String := s!"invalid literal for int() with base {base}: ''"

/-- A place in a text. -/
structure Cursor where
  /-- The text from here on. -/
  rest : List Char
  line : Nat
  column : Nat
  /-- Whether a key may begin here: at the start of a line, and behind the dash of an item. -/
  fresh : Bool

/-- Whether a character ends a line. -/
def isBreak (c : Char) : Bool := c = '\n' || c = '\u2028' || c = '\u2029'

/-- Whether a character separates words. -/
def isGap (c : Char) : Bool := c = ' ' || c = '\t' || isBreak c

/-- Whether a word ends before what is left of a text. -/
def endsWord (rest : List Char) : Bool := rest.head?.all isGap

/-- Whether a line begins a document or ends one. -/
def startsMarker (rest : List Char) : Bool :=
  (['-', '-', '-'].isPrefixOf rest || ['.', '.', '.'].isPrefixOf rest) && endsWord (rest.drop 3)

/-- The text with one character for each line break. -/
def normalizeBreaks : List Char → List Char
  | '\r' :: '\n' :: rest => '\n' :: normalizeBreaks rest
  | '\r' :: rest => '\n' :: normalizeBreaks rest
  | '\x85' :: rest => '\n' :: normalizeBreaks rest
  | c :: rest => c :: normalizeBreaks rest
  | [] => []

/-- Whether a character may occur in a text. -/
def isAllowed (c : Char) : Bool :=
  let n := c.toNat
  n = 0x09 || n = 0x0A || n = 0x0D || (0x20 ≤ n && n ≤ 0x7E) || n = 0x85 ||
    (0xA0 ≤ n && n ≤ 0xD7FF) || (0xE000 ≤ n && n ≤ 0xFFFD) || 0x10000 ≤ n

namespace Cursor

/-- The place behind one more character. -/
def step (c : Cursor) (char : Char) : Cursor :=
  if isBreak char then { c with line := c.line + 1, column := 0 }
  else { c with column := c.column + 1 }

/-- The place where `rest` is left of the text. No key may begin there. -/
def upTo (c : Cursor) (rest : List Char) : Cursor :=
  { (c.rest.take (c.rest.length - rest.length)).foldl step c with rest, fresh := false }

/-- The place behind the next few characters of a line. No key may begin there. -/
def past (c : Cursor) (count : Nat) : Cursor :=
  { c with rest := c.rest.drop count, column := c.column + count, fresh := false }

/-- The next token from a place on: spaces, line breaks and comments are skipped. Keys may begin on
a new line, except inside brackets. -/
def skipFrom (inFlow inComment : Bool) (line column : Nat) (fresh : Bool) : List Char → Cursor
  | [] => { rest := [], line, column, fresh }
  | c :: rest =>
    if isBreak c then skipFrom inFlow false (line + 1) 0 (fresh || !inFlow) rest
    else if inComment then skipFrom inFlow true line (column + 1) fresh rest
    else if c = ' ' then skipFrom inFlow false line (column + 1) fresh rest
    else if c = '#' then skipFrom inFlow true line (column + 1) fresh rest
    else { rest := c :: rest, line, column, fresh }

/-- The next token. -/
def skip (c : Cursor) (inFlow : Bool) : Cursor :=
  skipFrom inFlow false c.line c.column c.fresh c.rest

/-- Whether a document begins or ends here. -/
def atMarker (c : Cursor) : Bool := c.column = 0 && startsMarker c.rest

/-- Whether there is nothing left of a document. -/
def atEnd (c : Cursor) : Bool := c.rest.isEmpty || c.atMarker

/-- Whether a character stands here alone, as the dash of an item or the colon of a key does. -/
def atSign (c : Cursor) (sign : Char) : Bool :=
  match c.rest with
  | first :: rest => first = sign && endsWord rest
  | [] => false

end Cursor

end SearchBuilder.Yaml
