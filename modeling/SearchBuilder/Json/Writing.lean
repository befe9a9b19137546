import SearchBuilder.Json.Display
import SearchBuilder.Json.Printer

/-!
# Writing values

Whole numbers have any size, but a platform may limit the digits of those that it writes. An object
that is no JSON is shown in messages and parameters like any value, but it cannot be written as
JSON. A text is refused for the first value in it that cannot be written.
-/

namespace SearchBuilder

/-- The most digits of a whole number in a text, if there is a limit. -/
abbrev DigitLimit := Option Nat

/-- Whether a whole number has more digits than are allowed. -/
def DigitLimit.excludes (limit : DigitLimit) (i : Int) : Bool :=
  limit.any fun digits => Nat.pow 10 digits ≤ i.natAbs

/-- Why a text cannot be written. -/
inductive TextFault where
  | tooManyDigits
  | notJson
  deriving DecidableEq, Repr

namespace Json

mutual

/-- The first fault in a value; `object` is what is wrong with an object that is no JSON, if that is
a fault. -/
def fault? (limit : DigitLimit) (object : Option TextFault) : Json → Option TextFault
  | .int i => if limit.excludes i then some .tooManyDigits else none
  | .arr items => itemsFault? limit object items
  | .obj members => membersFault? limit object members
  | .foreign .. => object
  | .null | .bool _ | .float _ | .str _ => none

/-- The first fault in some items. -/
def itemsFault? (limit : DigitLimit) (object : Option TextFault) : List Json → Option TextFault
  | [] => none
  | item :: rest => (fault? limit object item).or (itemsFault? limit object rest)

/-- The first fault in the values of some members. -/
def membersFault? (limit : DigitLimit) (object : Option TextFault) :
    List (String × Json) → Option TextFault
  | [] => none
  | (_, value) :: rest => (fault? limit object value).or (membersFault? limit object rest)

end

/-- What keeps a value from being written as JSON. -/
def jsonFault? (limit : DigitLimit) (j : Json) : Option TextFault := j.fault? limit (some .notJson)

/-- What keeps a value from being shown. -/
def shownFault? (limit : DigitLimit) (j : Json) : Option TextFault := j.fault? limit none

end Json

/-- A text, with the values that are spelled in it. -/
structure Writing where
  text : String
  /-- The values that are written as JSON. -/
  documents : List Json := []
  /-- The values that are written as messages show them. -/
  shown : List Json := []

namespace Writing

/-- Why the text cannot be written. -/
def fault? (limit : DigitLimit) (w : Writing) : Option TextFault :=
  (w.documents.findSome? (·.jsonFault? limit)).or (w.shown.findSome? (·.shownFault? limit))

/-- The text, if it can be written. -/
def write (limit : DigitLimit) (w : Writing) : Except TextFault String :=
  match w.fault? limit with
  | some fault => .error fault
  | none => .ok w.text

/-- A document with a space after each separator, as servers are sent it. -/
def spaced (j : Json) : Writing := { text := j.spaced, documents := [j] }

end Writing

end SearchBuilder
