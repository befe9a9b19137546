import SearchBuilder.Json.Printer
import SearchBuilder.Yaml.Number
import SearchBuilder.Yaml.Scalar

/-!
# Reading YAML

A document of block and flow collections with plain and quoted scalars. Block collections are told
by columns: the entries of one stand in one column, and what belongs to an entry stands to the
right of it. Only the dashes of a list that is the value of a key may stand in the column of that
key. A key and its colon stand in one line, at most 1024 columns apart.

Anchors, tags, directives, block scalars and complex keys are not read.
-/

namespace SearchBuilder.Yaml

/-! ## Meaning of scalars -/

/-- The words that mean null. -/
def nullNames : List String := ["", "~", "null", "Null", "NULL"]

/-- The words that mean true. -/
def trueNames : List String :=
  ["yes", "Yes", "YES", "true", "True", "TRUE", "on", "On", "ON"]

/-- The words that mean false. -/
def falseNames : List String :=
  ["no", "No", "NO", "false", "False", "FALSE", "off", "Off", "OFF"]

/-- The words that mean something else than a value. -/
def specialNames : List String := ["=", "<<"]

namespace Scalar

/-- The value of a scalar. One in quotes is always a text. -/
def value (s : Scalar) : Except Flaw Json :=
  let text := String.ofList s.text
  if s.quoted then .ok (.str text)
  else if nullNames.contains text then .ok .null
  else if trueNames.contains text then .ok (.bool true)
  else if falseNames.contains text then .ok (.bool false)
  else if specialNames.contains text then .error .badValue
  else
    match double? s.text, integer? s.text with
    | some x, _ => .ok (.float x)
    | none, some i => i.map .int
    | none, none => .ok (.str text)

/-- The key that a scalar is: a text, or the written form of another value. -/
def key (s : Scalar) : Except Flaw String :=
  if !s.quoted && s.text = ['<', '<'] then .error .badKey
  else if !s.quoted && s.text = ['='] then .ok "="
  else do
    match ← s.value with
    | .str text => .ok text
    | value => .ok value.compact

end Scalar

/-- The greatest distance of a key and its colon. -/
def keyReach : Nat := 1024

/-- Whether the colon at `colon` belongs to a key that begins at `start`. -/
def isKeyOf (start colon : Cursor) : Bool :=
  colon.line = start.line && colon.column - start.column ≤ keyReach

/-! ## Flow collections -/

mutual

/-- Reads a value inside brackets, or a collection with its brackets. Every call of these readers
is about a character of its own, so a budget of a few calls for each is never used up. -/
def readFlow : Nat → Cursor → Except Flaw (Json × Cursor)
  | 0, _ => .error .unclosed
  | budget + 1, c =>
    if c.atMarker then .error .unclosed
    else
      match c.rest with
      | [] => .error .unclosed
      | '[' :: _ => do
        let (items, next) ← readFlowItems budget ((c.past 1).skip true)
        .ok (.arr items, next)
      | '\x7b' :: _ => do
        let (members, next) ← readFlowMembers budget ((c.past 1).skip true)
        .ok (.obj (Entries.ofList members), next)
      | _ => do
        let (scalar, next) ← readScalar true 0 c
        .ok (← scalar.value, next)

/-- Reads an entry of a flow collection: a key with its value, or a value alone. -/
def readFlowEntry : Nat → Cursor → Except Flaw ((Option String × Json) × Cursor)
  | 0, _ => .error .unclosed
  | budget + 1, c =>
    if c.atMarker || c.rest.head? = some '[' || c.rest.head? = some '\x7b' then do
      let (value, next) ← readFlow budget c
      .ok ((none, value), next)
    else do
      let (scalar, next) ← readScalar true 0 c
      let colon := next.skip true
      if colon.rest.head? = some ':' && isKeyOf c colon then
        let key ← scalar.key
        let start := (colon.past 1).skip true
        if start.rest.head?.any [',', ']', '\x7d'].contains then .ok ((some key, .null), start)
        else
          let (value, next) ← readFlow budget start
          .ok ((some key, value), next)
      else .ok ((none, ← scalar.value), next)

/-- Reads the items of a list up to its closing bracket. A key with a value is an item too. -/
def readFlowItems : Nat → Cursor → Except Flaw (List Json × Cursor)
  | 0, _ => .error .unclosed
  | budget + 1, c =>
    if c.rest.head? = some ']' then .ok ([], c.past 1)
    else do
      let ((key, value), next) ← readFlowEntry budget c
      let item := match key with
        | some key => .obj [(key, value)]
        | none => value
      let next := next.skip true
      match next.rest with
      | ']' :: _ => .ok ([item], next.past 1)
      | ',' :: _ =>
        let (items, final) ← readFlowItems budget ((next.past 1).skip true)
        .ok (item :: items, final)
      | _ => .error .noComma

/-- Reads the members of a mapping up to its closing brace. A key may lack its value. -/
def readFlowMembers : Nat → Cursor → Except Flaw (List (String × Json) × Cursor)
  | 0, _ => .error .unclosed
  | budget + 1, c =>
    if c.rest.head? = some '\x7d' then .ok ([], c.past 1)
    else do
      let (member, next) ← readFlowMember budget c
      let next := next.skip true
      match next.rest with
      | '\x7d' :: _ => .ok ([member], next.past 1)
      | ',' :: _ =>
        let (members, final) ← readFlowMembers budget ((next.past 1).skip true)
        .ok (member :: members, final)
      | _ => .error .noComma

/-- Reads a member of a mapping. -/
def readFlowMember : Nat → Cursor → Except Flaw ((String × Json) × Cursor)
  | 0, _ => .error .unclosed
  | budget + 1, c => do
    match ← readFlowEntry budget c with
    | ((some key, value), next) => .ok ((key, value), next)
    | ((none, .arr _), _) | ((none, .obj _), _) => .error .badKey
    | ((none, _), _) =>
      let (scalar, next) ← readScalar true 0 c
      .ok ((← scalar.key, .null), next)

end

/-! ## Block collections -/

mutual

/-- Reads the node at a token. Its scalars are indented by at least `low` columns. -/
def readBlock : Nat → Nat → Cursor → Except Flaw (Json × Cursor)
  | 0, _, _ => .error .unclosed
  | budget + 1, low, c =>
    if c.atSign '-' then
      if c.fresh then do
        let (items, next) ← readItems budget c.column false c
        .ok (.arr items, next)
      else .error .misplaced
    else if c.rest.head? = some '[' || c.rest.head? = some '\x7b' then readFlow budget c
    else do
      let (scalar, next) ← readScalar false low c
      let colon := next.skip false
      if colon.atSign ':' then
        if c.fresh && isKeyOf c colon then
          let (members, next) ← readMembers budget c.column (← scalar.key) colon
          .ok (.obj (Entries.ofList members), next)
        else .error .misplaced
      else .ok (← scalar.value, next)

/-- Reads the members of a mapping from the colon of its next key on. -/
def readMembers : Nat → Nat → String → Cursor → Except Flaw (List (String × Json) × Cursor)
  | 0, _, _, _ => .error .unclosed
  | budget + 1, column, key, colon => do
    let start := (colon.past 1).skip false
    let (value, next) ←
      if start.atEnd then .ok (.null, start)
      else if column < start.column then readBlock budget (column + 1) start
      else if start.column = column && start.atSign '-' then do
        let (items, next) ← readItems budget column true start
        .ok (.arr items, next)
      else .ok (.null, start)
    let next := next.skip false
    if next.atEnd || next.column < column then .ok ([(key, value)], next)
    else if next.column = column then
      let (scalar, left) ← readScalar false (column + 1) next
      let colon := left.skip false
      if colon.atSign ':' && isKeyOf next colon then
        let (members, final) ← readMembers budget column (← scalar.key) colon
        .ok ((key, value) :: members, final)
      else .error .misplaced
    else .error .badIndentation

/-- Reads the items of a list from its next dash on. A list in the column of its key ends at the
next key. -/
def readItems : Nat → Nat → Bool → Cursor → Except Flaw (List Json × Cursor)
  | 0, _, _, _ => .error .unclosed
  | budget + 1, column, underKey, dash => do
    let start := { dash.past 1 with fresh := true }.skip false
    let (item, next) ←
      if start.atEnd || start.column ≤ column then .ok (.null, start)
      else readBlock budget (column + 1) start
    let next := next.skip false
    if next.atEnd || next.column < column then .ok ([item], next)
    else if next.column = column then
      if next.atSign '-' then
        let (items, final) ← readItems budget column underKey next
        .ok (item :: items, final)
      else if underKey then .ok ([item], next)
      else .error .misplaced
    else .error .badIndentation

end

/-! ## Documents -/

/-- Whether a line ends a document. -/
def endsDocument (c : Cursor) : Bool := c.atMarker && c.rest.head? = some '.'

/-- Checks that nothing but ends of documents follows. -/
def checkEnd : Nat → Cursor → Except Flaw Unit
  | 0, _ => .error .secondDocument
  | budget + 1, c =>
    if c.rest.isEmpty then .ok ()
    else if endsDocument c then checkEnd budget ((c.past 3).skip false)
    else .error .secondDocument

/-- Reads the only document of a text. An empty one is null. -/
def parse (text : String) : Except Flaw Json := do
  let chars := text.toList
  if !chars.all isAllowed then throw .unprintable
  let body := normalizeBreaks (if chars.head? = some '\uFEFF' then chars.drop 1 else chars)
  let budget := 4 * body.length + 4
  let start := Cursor.skip { rest := body, line := 0, column := 0, fresh := true } false
  if start.rest.isEmpty then return .null
  if endsDocument start then throw .badStart
  let content := if start.atMarker then (start.past 3).skip false else start
  let (value, next) ←
    if content.atEnd then .ok (.null, content) else readBlock budget 0 content
  checkEnd budget (next.skip false)
  return value

end SearchBuilder.Yaml
