import SearchBuilder.Document.Kind
import SearchBuilder.Document.Part
import SearchBuilder.Json.Printer

/-!
# Nodes

A node owns one fragment of a request document. Most fragments are an envelope: an object whose
one key, the *slot*, holds the *body*. The slot is the name of the query or filter, or the name
that the user gave to an aggregation. Some bodies hold a further object of options under the
*inner* key: the field that is searched, or the type of an aggregation.

Options live at one of three places. Reading and writing fail if the value there is no object,
which happens only when a field is given the name of an option.
-/

namespace SearchBuilder

/-- A node of a request document. -/
structure Node where
  kind : Kind
  fragment : Json
  slot : String := ""
  inner : String := ""

/-- Where in a fragment an option is stored. -/
inductive Place where
  /-- The fragment itself. -/
  | root
  /-- The value under the slot. -/
  | body
  /-- The value under the inner key of the body. -/
  | inner
  deriving DecidableEq, Repr

namespace Json

/-- The value of a key, null if there is none. -/
def member (j : Json) (key : String) : Json :=
  match j with
  | .obj members => (Entries.get? members key).getD .null
  | _ => .null

/-- The value with a member set, if it is an object. -/
def setMember? (j : Json) (key : String) (value : Json) : Option Json :=
  match j with
  | .obj members => some (.obj (Entries.set members key value))
  | _ => none

/-- An object with a member set; any other value stays as it is. -/
def setMember (j : Json) (key : String) (value : Json) : Json := (j.setMember? key value).getD j

end Json

namespace Node

/-- A node whose fragment is an envelope around a body. -/
def envelope (kind : Kind) (slot : String) (body : Entries Json) : Node :=
  { kind, fragment := .obj [(slot, .obj body)], slot }

/-- A node whose body holds an object of options under an inner key. -/
def nestedEnvelope (kind : Kind) (slot inner : String) (options : Entries Json) : Node :=
  { envelope kind slot [(inner, .obj options)] with inner }

/-- The path to a place. -/
def path (n : Node) : Place → Path
  | .root => []
  | .body => [n.slot]
  | .inner => [n.slot, n.inner]

/-- The value at a place. -/
def valueAt (n : Node) : Place → Json
  | .root => n.fragment
  | .body => n.fragment.member n.slot
  | .inner => (n.fragment.member n.slot).member n.inner

/-- The node with another value at a place. -/
def replace (n : Node) (place : Place) (value : Json) : Node :=
  match place with
  | .root => { n with fragment := value }
  | .body => { n with fragment := n.fragment.setMember n.slot value }
  | .inner =>
    let body := (n.fragment.member n.slot).setMember n.inner value
    { n with fragment := n.fragment.setMember n.slot body }

/-- The text of the fragment. -/
def text (n : Node) : String := n.fragment.compact

/-- The node as it is shown in messages. -/
def shown (n : Node) : String := s!"{n.kind.name}({n.text})"

end Node

end SearchBuilder
