import SearchBuilder.Number.Binary64

/-!
# JSON values

Integers and doubles are distinct, integers have any size, and the members of an object keep the
order in which their keys were first set. `Entries` are such ordered members; no operation on
them repeats a key.

A program may also store an object of its own where a value is expected. A document then holds the
object itself, which is no JSON and has no JSON text.
-/

namespace SearchBuilder

/-- A JSON value, or what a program has put in its place. -/
inductive Json where
  | null
  | bool (b : Bool)
  | int (i : Int)
  | float (x : Binary64)
  | str (s : String)
  | arr (items : List Json)
  | obj (members : List (String × Json))
  /-- An object that is no JSON, by the texts that stand for it in messages and in parameters. -/
  | foreign (shown written : String)
  deriving Inhabited, Repr

/-- Keys with values, in the order in which the keys were first set. -/
abbrev Entries (α : Type) := List (String × α)

namespace Entries

variable {α : Type}

/-- The value of a key. -/
def get? : Entries α → String → Option α
  | [], _ => none
  | (k, v) :: rest, key => if k = key then some v else get? rest key

/-- Sets the value of a key: a known key keeps its position, a new one comes last. -/
def set : Entries α → String → α → Entries α
  | [], key, value => [(key, value)]
  | (k, v) :: rest, key, value =>
    if k = key then (k, value) :: rest else (k, v) :: set rest key value

/-- Removes a key. -/
def erase (m : Entries α) (key : String) : Entries α := m.filter (·.1 ≠ key)

/-- Whether a key is present. -/
def contains (m : Entries α) (key : String) : Bool := (get? m key).isSome

/-- Sets every entry of `additions` in turn, so that the last value of a key wins. -/
def merge (target additions : Entries α) : Entries α :=
  additions.foldl (fun m (key, value) => set m key value) target

/-- Entries from pairs that may repeat a key: the last value wins, at the first position. -/
def ofList (pairs : List (String × α)) : Entries α := merge [] pairs

/-- The entries with `value` under a key that was absent; a present key keeps its value. -/
def setDefault (m : Entries α) (key : String) (value : α) : Entries α :=
  if contains m key then m else set m key value

/-- Moves the value under `old` to `new`. If `old` is absent, `absent` is stored. -/
def rekey (m : Entries α) (old new : String) (absent : α) : Entries α :=
  if old = new then m else set (erase m old) new ((get? m old).getD absent)

end Entries

namespace Json

/-- The object without members. -/
def empty : Json := .obj []

/-- A list of texts. -/
def ofStrings (texts : List String) : Json := .arr (texts.map .str)

/-- Whether a value is null. -/
def isNull : Json → Bool
  | .null => true
  | _ => false

/-- The members of an object. -/
def members? : Json → Option (Entries Json)
  | .obj members => some members
  | _ => none

/-- The text of a string. -/
def text? : Json → Option String
  | .str s => some s
  | _ => none

/-- Whether a value counts as set in a switch: null, false, zeros and everything empty do not. -/
def isTruthy : Json → Bool
  | .null => false
  | .bool b => b
  | .int i => i ≠ 0
  | .float x => !x.isZero
  | .str s => !s.isEmpty
  | .arr items => !items.isEmpty
  | .obj members => !members.isEmpty
  | .foreign .. => true

end Json

end SearchBuilder
