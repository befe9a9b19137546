import SearchBuilder.Document.Node
import SearchBuilder.Json.Display

/-!
# Arguments

What a setter may be given: a plain value, a list, another node, the very node that the call is
made on, or something that is none of these. Another node is seen through its category and
fragment alone, so every object that has the two may be put into a slot. A slot takes a copy of the
fragment, made at the time of the call. An option that takes any value is given the object itself,
which is no JSON and is told by the texts that it has at that time.
-/

namespace SearchBuilder

/-- A node as others see it. -/
structure Child where
  /-- The text that stands for the node in messages. -/
  shown : String
  category : Option Category
  fragment : Json
  /-- The text that stands for the node in parameters. -/
  written : String := shown

/-- The view that others have of a node. -/
def Node.toChild (n : Node) : Child := ⟨n.shown, n.kind.category, n.fragment, n.text⟩

/-- A node where any value is taken. -/
def Child.toJson (child : Child) : Json := .foreign child.shown child.written

/-- An object without a text of its own. -/
def otherText : String := "<object>"

/-- An argument of a call. -/
inductive Argument where
  | plain (value : Json)
  | list (items : List Argument)
  | node (child : Child)
  /-- The node that the call is made on, as it is when the call looks at it. -/
  | receiver
  /-- An object that is neither a value nor a node. -/
  | other

/-- Whether a fragment is that of a span query. -/
def isSpanFragment (fragment : Json) : Bool :=
  match fragment with
  | .obj members => members.any fun (key, _) => "span_".isPrefixOf key
  | _ => false

/-- Whether a node is what a slot expects. -/
def Child.satisfies (child : Child) : Expected → Bool
  | .category c => child.category = some c
  | .spanQuery => child.category = some .query && isSpanFragment child.fragment

namespace Argument

/-- The argument that asks for a read. -/
def null : Argument := .plain .null

/-- Whether an argument asks for a read. -/
def isNull : Argument → Bool
  | .plain .null => true
  | _ => false

/-- The node that an argument is, if it is one, when the receiver is `self`. -/
def child? (self : Node) : Argument → Option Child
  | .node child => some child
  | .receiver => some self.toChild
  | _ => none

/-- Whether an argument is a node that a slot of `self` expects. -/
def satisfies (self : Node) (expected : Expected) (a : Argument) : Bool :=
  (a.child? self).any (·.satisfies expected)

/-- Whether an argument is a node of any category. -/
def isNode (self : Node) (a : Argument) : Bool := (a.child? self).isSome

/-- The items of a list. -/
def items? : Argument → Option (List Argument)
  | .list items => some items
  | .plain (.arr items) => some (items.map .plain)
  | _ => none

/-- The text that an argument is. -/
def text? : Argument → Option String
  | .plain (.str s) => some s
  | _ => none

/-- The key that an argument is: a text as it is, and any other scalar as JSON writes it. Names are
given as texts; lists and objects are no keys. -/
def name : Argument → String
  | .plain (.str s) => s
  | .plain j => j.compact
  | _ => otherText

/-- One text or a list of texts. -/
def names? (a : Argument) : Option (List String) :=
  match a with
  | .plain (.str s) => some [s]
  | _ => a.items? >>= fun items => items.mapM text?

mutual

/-- The value that an option is given, which is the object itself if the argument is no value. -/
def toJson (self : Node) : Argument → Json
  | .plain value => value
  | .list items => .arr (listToJson self items)
  | .node child => child.toJson
  | .receiver => self.toChild.toJson
  | .other => .foreign otherText otherText

/-- The values that options are given. -/
def listToJson (self : Node) : List Argument → List Json
  | [] => []
  | item :: rest => toJson self item :: listToJson self rest

end

/-- What a slot is given: a copy of the fragment of a node. -/
def snapshot (self : Node) (a : Argument) : Json :=
  match a.child? self with
  | some child => child.fragment
  | none => a.toJson self

/-- Whether an argument counts as set in a switch. -/
def isTruthy : Argument → Bool
  | .plain value => value.isTruthy
  | .list items => !items.isEmpty
  | _ => true

mutual

/-- An argument as messages show it. -/
def display (self : Node) : Argument → List Char
  | .plain value => value.display
  | .list items => '[' :: displayItems self items ++ [']']
  | .node child => child.shown.toList
  | .receiver => self.shown.toList
  | .other => otherText.toList

/-- The items of a list as messages show them. -/
def displayItems (self : Node) : List Argument → List Char
  | [] => []
  | [item] => display self item
  | item :: next :: rest => display self item ++ ',' :: ' ' :: displayItems self (next :: rest)

end

end Argument

/-- The arguments of a call: some by position, the others by name. -/
structure Arguments where
  positional : List Argument := []
  named : List (String × Argument) := []

namespace Arguments

/-- The argument at a position or under a name, if it is given. -/
def get? (args : Arguments) (index : Nat) (name : String) : Option Argument :=
  args.positional[index]? <|> Entries.get? args.named name

/-- The argument at a position or under a name; one that is missing is null. -/
def get (args : Arguments) (index : Nat) (name : String) : Argument :=
  (args.get? index name).getD .null

/-- The first argument: the first by position, or else the first name that is none of `others`. -/
def first? (args : Arguments) (others : List String) : Option Argument :=
  args.positional.head? <|> (args.named.find? fun (name, _) => !others.contains name).map (·.2)

/-- The first argument; null if it is missing. -/
def first (args : Arguments) (others : List String := []) : Argument :=
  (args.first? others).getD .null

/-- A call with one argument. -/
def one (a : Argument) : Arguments := { positional := [a] }

end Arguments

end SearchBuilder
