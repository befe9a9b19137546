import SearchBuilder.Document.Node
import SearchBuilder.Json.Writing
import SearchBuilder.Text.Quoted

/-!
# Outcomes of calls

A call on a node answers a value or the node itself for chaining, or it fails. Some failures come
after a first change to the node, so an outcome holds the node in every case. A `Fault` says what
was wrong; those that blame an argument have words for it, the others arise where fragments
collide or where a text cannot be written. A `Notice` is a log message.

A call that answers a text leaves it to be written, for a text may hold numbers that are too long.
-/

namespace SearchBuilder

/-- What is wrong with an argument. -/
inductive Misuse where
  | notText (key : String)
  | notExpected (expected : Expected)
  | notExpectedOrList (expected : Expected)
  | badItem (expected : Expected)
  | notNames (what : String)
  | notNumber (key : String)
  | notInteger (key : String)
  | notFieldList
  | badOrigin
  | notPoint
  | noSubAggregations (className : String)
  | notObject
  | badSortPair
  | badSortItem
  | badSort
  | onlyExcludes
  deriving DecidableEq, Repr

/-- What is wrong, in words. -/
def Misuse.message : Misuse → String
  | notText key => s!"{key} must be a string"
  | notExpected expected => s!"Argument must be {expected.words}"
  | notExpectedOrList expected => s!"Argument must be {expected.words} or a list of them"
  | badItem expected => s!"Every list element must be {expected.words}"
  | notNames what => s!"{what} must be a string or a list of strings"
  | notNumber key => s!"{key} must be a number"
  | notInteger key => s!"{key} must be an integer"
  | notFieldList => "fields must be a list of field names"
  | badOrigin => "origin must be a GeoPoint or a plain value"
  | notPoint => "Argument must be a GeoPoint or a lat, lon pair"
  | noSubAggregations className => s!"{className} does not accept sub-aggregations"
  | notObject => "Argument must be an object"
  | badSortPair => "Arguments must be a field name and an order"
  | badSortItem => "Every list element must be a field name or a Sort"
  | badSort => "Argument must be a field name, a Sort or a list of them"
  | onlyExcludes => "excludes requires includes"

/-- Why a call fails. -/
inductive Fault where
  | misuse (cause : Misuse)
  /-- A key was read of something that is no object. -/
  | readsNonObject
  /-- A key was written to something that is no object. -/
  | writesNonObject
  /-- A key was read that is not there. -/
  | missingKey
  /-- Something was appended to what is no list. -/
  | appendsToNonList
  /-- Something that is no object was merged into a section. -/
  | mergesNonObject
  /-- A direction was given that is no text. -/
  | directionNotText
  /-- The text that was asked for cannot be written. -/
  | unwritten (fault : TextFault)
  /-- The node has no such method. -/
  | noMethod
  deriving DecidableEq, Repr

/-- The weight of a log message. -/
inductive Severity where
  | debug
  | info
  | warning
  | error
  deriving DecidableEq, Repr

/-- A log message. -/
structure Notice where
  severity : Severity
  message : String
  deriving DecidableEq, Repr

/-- A text quoted for a message. -/
def quotedText (s : String) : String := String.ofList (quoted s.toList)

namespace Notice

/-- An option was given a word that it does not know. -/
def ignoredWord (key className word : String) : Notice :=
  ⟨.debug, s!"Ignoring unsupported {key} value for {className}: {quotedText word}"⟩

/-- A bucket order was given a direction that is not known. -/
def unknownDirection (direction : String) : Notice :=
  ⟨.debug, s!"Unknown order direction {quotedText direction}, using desc"⟩

/-- A geo point was given properties that make no point. -/
def ignoredPoint (shown : List Char) : Notice :=
  ⟨.debug, "Ignoring geo point properties without lat/lon or geohash: " ++ String.ofList shown⟩

/-- A sort clause was given an order that is not known. -/
def ignoredOrder (field order : String) : Notice :=
  ⟨.debug, s!"Ignoring unsupported sort order for {field}: {quotedText order}"⟩

end Notice

/-- What a successful call answers. -/
inductive Answer where
  /-- The node itself, for chaining. -/
  | self
  | value (j : Json)
  /-- The part of the fragment at a path, with the value that it has now. -/
  | part (path : Path) (j : Json)
  /-- A text that is still to be written. -/
  | text (w : Writing)

/-- The answer with its text written. -/
def Answer.write (limit : DigitLimit) : Answer → Except Fault Answer
  | .text w => ((w.write limit).map fun text => .value (.str text)).mapError .unwritten
  | answer => .ok answer

/-- The result of a call on something of type `σ`. -/
structure Outcome (σ : Type) where
  state : σ
  answer : Except Fault Answer
  notices : List Notice := []
  /-- What the call did to the parts of the fragment. -/
  shifts : List Shift := []

namespace Outcome

variable {σ τ : Type}

/-- The call answers a value and changes nothing. -/
def value (state : σ) (j : Json) : Outcome σ := { state, answer := .ok (.value j) }

/-- The call answers the node. -/
def chained (state : σ) : Outcome σ := { state, answer := .ok .self }

/-- The call answers the node and has shifted parts of its fragment. -/
def shifted (state : σ) (shifts : List Shift) : Outcome σ :=
  { state, answer := .ok .self, shifts }

/-- The call answers the node and logs a message. -/
def noticed (state : σ) (notice : Notice) : Outcome σ :=
  { state, answer := .ok .self, notices := [notice] }

/-- The call fails. -/
def failed (state : σ) (fault : Fault) : Outcome σ := { state, answer := .error fault }

/-- The call blames an argument. -/
def refused (state : σ) (cause : Misuse) : Outcome σ := failed state (.misuse cause)

/-- Goes on with a second call unless the first failed. -/
def andThen (o : Outcome σ) (next : σ → Outcome σ) : Outcome σ :=
  match o.answer with
  | .error _ => o
  | .ok _ =>
    let p := next o.state
    { p with notices := o.notices ++ p.notices, shifts := o.shifts ++ p.shifts }

/-- The outcome with the text of its answer written. -/
def written (limit : DigitLimit) (o : Outcome σ) : Outcome σ :=
  { o with answer := o.answer >>= Answer.write limit }

/-- The same outcome for a larger state. -/
def map (f : σ → τ) (o : Outcome σ) : Outcome τ := { o with state := f o.state }

end Outcome

/-- Answers the part of a node at a path, null if there is none. -/
def Node.readPart (n : Node) (path : Path) : Outcome Node :=
  match n.fragment.part? path with
  | some value => { state := n, answer := .ok (.part path value) }
  | none => .value n .null

/-- Answers the part of a node at a path as `readPart` does; what lies on the way must be objects.
-/
def Node.readThrough (n : Node) (path : Path) : Outcome Node :=
  if n.fragment.opens path then n.readPart path else .failed n .readsNonObject

end SearchBuilder
