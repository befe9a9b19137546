import SearchBuilder.Json.StringLiteral
import SearchBuilder.Yaml.Cursor

/-!
# Scalars of YAML

A scalar is written plain, between single quotes or between double quotes. It may go on over
several lines: a line break is read as a space, and each empty line after it as a line break. The
lines of a plain scalar are indented more than the collection that it is in.
-/

namespace SearchBuilder.Yaml

/-- A scalar as it is written. -/
structure Scalar where
  text : List Char
  quoted : Bool

/-- What a line break is read as, given the breaks of the empty lines after it. -/
def foldBreak (first : Char) (others : List Char) : List Char :=
  if first ≠ '\n' then first :: others
  else if others.isEmpty then [' ']
  else others

/-! ## Plain scalars -/

/-- The characters that end a plain scalar inside brackets. -/
def flowSigns : List Char := [',', '?', '[', ']', '{', '}']

/-- Whether a word of a plain scalar ends before a character. -/
def endsPlain (inFlow : Bool) (c : Char) (rest : List Char) : Bool :=
  isGap c || (inFlow && flowSigns.contains c) ||
    (c = ':' && (endsWord rest || (inFlow && rest.head?.any [',', '[', ']', '{', '}'].contains)))

/-- A word of a plain scalar, and what is left. -/
def plainWord (inFlow : Bool) : List Char → List Char × List Char
  | [] => ([], [])
  | c :: rest =>
    if endsPlain inFlow c rest then ([], c :: rest)
    else
      let (word, left) := plainWord inFlow rest
      (c :: word, left)

/-- The breaks of empty lines, and the place behind the indentation of the line after them. -/
def emptyLines (line column : Nat) : List Char → List Char × Cursor
  | [] => ([], { rest := [], line, column, fresh := true })
  | c :: rest =>
    if c = ' ' then emptyLines line (column + 1) rest
    else if isBreak c then
      let (breaks, next) := emptyLines (line + 1) 0 rest
      (c :: breaks, next)
    else ([], { rest := c :: rest, line, column, fresh := true })

/-- What stands between two words of a plain scalar, and the place behind it. -/
def plainGap (c : Cursor) : List Char × Cursor :=
  let spaces := c.rest.takeWhile (· = ' ')
  match c.rest.dropWhile (· = ' ') with
  | [] => ([], c.past spaces.length)
  | first :: rest =>
    if isBreak first then
      let (breaks, next) := emptyLines (c.line + 1) 0 rest
      (foldBreak first breaks, next)
    else (spaces, c.past spaces.length)

/-- The rest of a plain scalar behind one of its words. -/
def plainTail (inFlow : Bool) (low : Nat) (c : Cursor) : List Char × Cursor :=
  let (gap, next) := plainGap c
  let (word, left) := plainWord inFlow next.rest
  let ends := gap.isEmpty || next.atMarker || next.rest.head? = some '#' ||
    (!inFlow && next.column < low) || word.isEmpty
  if ends then ([], next)
  else if left.length < c.rest.length then
    let (more, final) := plainTail inFlow low (next.upTo left)
    (gap ++ word ++ more, final)
  else ([], next)
termination_by c.rest.length
decreasing_by simpa [Cursor.upTo]

/-- Whether a plain scalar may begin with the next character. -/
def startsPlain (inFlow : Bool) (rest : List Char) : Bool :=
  match rest with
  | [] => false
  | c :: rest =>
    if c = '-' then !endsWord rest
    else if c = '?' || c = ':' then !inFlow && !endsWord rest
    else !isGap c && !"?:,[]\x7b\x7d#&*!|>'\"%@`".toList.contains c

/-- Reads a plain scalar, the lines of which are indented by at least `low` columns. -/
def readPlain (inFlow : Bool) (low : Nat) (c : Cursor) : Except Flaw (Scalar × Cursor) :=
  if startsPlain inFlow c.rest then
    let (word, left) := plainWord inFlow c.rest
    let (more, next) := plainTail inFlow low (c.upTo left)
    .ok ({ text := word ++ more, quoted := false }, next)
  else .error .badStart

/-! ## Quoted scalars -/

/-- The breaks of empty lines inside quotes, and what is left behind the indentation of the line
after them. No document may begin or end inside quotes. -/
def quotedLines (atStart : Bool) : List Char → Except Flaw (List Char × List Char)
  | [] => .ok ([], [])
  | c :: rest =>
    if atStart && startsMarker (c :: rest) then .error .unclosed
    else if c = ' ' || c = '\t' then quotedLines false rest
    else if isBreak c then do
      let (breaks, left) ← quotedLines true rest
      .ok (c :: breaks, left)
    else .ok ([], c :: rest)

/-- What a gap inside quotes is read as, and what is left behind it. -/
def quotedGap (s : List Char) : Except Flaw (List Char × List Char) :=
  let blank (c : Char) : Bool := c = ' ' || c = '\t'
  match s.dropWhile blank with
  | first :: rest =>
    if isBreak first then do
      let (breaks, left) ← quotedLines true rest
      .ok (foldBreak first breaks, left)
    else .ok (s.takeWhile blank, first :: rest)
  | [] => .error .unclosed

/-- The character that a letter behind a backslash stands for. -/
def escaped? : Char → Option Char
  | '0' => some '\x00'
  | 'a' => some '\x07'
  | 'b' => some '\x08'
  | 't' => some '\t'
  | '\t' => some '\t'
  | 'n' => some '\n'
  | 'v' => some '\x0b'
  | 'f' => some '\x0c'
  | 'r' => some '\r'
  | 'e' => some '\x1b'
  | ' ' => some ' '
  | '"' => some '"'
  | '\\' => some '\\'
  | '/' => some '/'
  | 'N' => some '\x85'
  | '_' => some '\xa0'
  | 'L' => some '\u2028'
  | 'P' => some '\u2029'
  | _ => none

/-- How many hexadecimal digits follow a letter behind a backslash. -/
def escapeWidth? : Char → Option Nat
  | 'x' => some 2
  | 'u' => some 4
  | 'U' => some 8
  | _ => none

/-- The units that an escape stands for, and what is left behind it. -/
def readEscape (s : List Char) : Except Flaw (List Nat × List Char) :=
  match s with
  | [] => .error .unclosed
  | c :: rest =>
    if isBreak c then do
      let (breaks, left) ← quotedLines true rest
      .ok (breaks.map Char.toNat, left)
    else
      match escaped? c, escapeWidth? c with
      | some meant, _ => .ok ([meant.toNat], rest)
      | none, some width =>
        match hexNumber? (rest.take width) with
        | some code =>
          if width ≤ rest.length && code < 0x110000 then .ok ([code], rest.drop width)
          else .error .badEscape
        | none => .error .badEscape
      | none, none => .error .badEscape

/-- The next piece of a quoted scalar and what is left behind it; none at the closing quote. -/
def quotedPiece (quote : Char) (s : List Char) : Except Flaw (Option (List Nat) × List Char) :=
  match s with
  | [] => .error .unclosed
  | c :: rest =>
    if isGap c then do
      let (text, left) ← quotedGap s
      .ok (some (text.map Char.toNat), left)
    else if c = quote then
      match rest with
      | next :: left =>
        if quote = '\'' && next = '\'' then .ok (some ['\''.toNat], left) else .ok (none, rest)
      | [] => .ok (none, rest)
    else if c = '\\' && quote = '"' then do
      let (units, left) ← readEscape rest
      .ok (some units, left)
    else .ok (some [c.toNat], rest)

/-- The units of a quoted scalar behind its opening quote. Every piece takes a character, so a
budget of the length of the text is never used up. -/
def quotedUnits (quote : Char) : Nat → List Char → Except Flaw (List Nat × List Char)
  | 0, _ => .error .unclosed
  | budget + 1, s => do
    match ← quotedPiece quote s with
    | (none, left) => .ok ([], left)
    | (some units, left) =>
      let (more, final) ← quotedUnits quote budget left
      .ok (units ++ more, final)

/-- Reads a scalar. -/
def readScalar (inFlow : Bool) (low : Nat) (c : Cursor) : Except Flaw (Scalar × Cursor) :=
  match c.rest with
  | [] => .error .badStart
  | first :: rest =>
    if first = '\'' || first = '"' then do
      let (units, left) ← quotedUnits first c.rest.length rest
      .ok ({ text := Json.joinSurrogates units, quoted := true }, c.upTo left)
    else readPlain inFlow low c

end SearchBuilder.Yaml
