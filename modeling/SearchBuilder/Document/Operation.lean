import SearchBuilder.Document.Body
import SearchBuilder.Document.Bucket
import SearchBuilder.Document.Decay
import SearchBuilder.Document.Field
import SearchBuilder.Document.Geo
import SearchBuilder.Document.Highlight
import SearchBuilder.Document.Sort
import SearchBuilder.Document.Suggestion

/-!
# Operations

An operation is what a method of a node does. The catalog gives every kind of node its methods as
a table from names to operations, so a law about all methods of all kinds is a law about the
operations and a look through the tables.
-/

namespace SearchBuilder

/-- A look at a node as a whole. -/
inductive Inspection where
  | tag
  | fragment
  | text
  | shown
  deriving DecidableEq, Repr

/-- Looks at a node. -/
def Inspection.run (i : Inspection) (n : Node) : Outcome Node :=
  match i with
  | tag => .value n (.str ((n.kind.category.map Category.tag).getD ""))
  | fragment => n.readPart []
  | text => { state := n, answer := .ok (.text { text := n.text, documents := [n.fragment] }) }
  | shown => { state := n, answer := .ok (.text { text := n.shown, documents := [n.fragment] }) }

/-- What a method of a node does. -/
inductive Operation where
  | accessor (a : Accessor)
  | field (m : FieldMethod)
  | geo (m : GeoMethod)
  | decay (m : DecayMethod)
  | bucket (m : BucketMethod)
  | highlight (m : HighlightMethod)
  | sort (m : SortMethod)
  | suggestion (m : SuggestionMethod)
  | body (m : BodyMethod)
  | inspect (i : Inspection)
  deriving DecidableEq, Repr

/-- Runs an operation on a node. -/
def Operation.run (op : Operation) (n : Node) (args : Arguments) : Outcome Node :=
  match op with
  | accessor a => a.run n args.first
  | field m => m.run n args
  | geo m => m.run n args
  | decay m => m.run n
  | bucket m => m.run n args
  | highlight m => m.run n args
  | sort m => m.run n args
  | suggestion m => m.run n args
  | body m => m.run n args
  | inspect i => i.run n

/-- A table of methods. -/
abbrev Methods := List (String × Operation)

namespace Operation

/-! ## Shorthands for tables -/

/-- Any value under a key of a place. -/
def option (place : Place) (key : String) : Operation := .accessor (.option place key)

/-- One of a few words, stored in small letters. -/
def choice (place : Place) (key : String) (words : List String) : Operation :=
  .accessor (.choice place key words .lower)

/-- One node of a category. -/
def child (place : Place) (key : String) (c : Category) : Operation :=
  .accessor (.child place key (.category c))

/-- A list of nodes of a category. -/
def children (place : Place) (key : String) (c : Category) : Operation :=
  .accessor (.children place key (.category c))

/-- One span query. -/
def span (place : Place) (key : String) : Operation := .accessor (.child place key .spanQuery)

/-- A list of span queries. -/
def spans (place : Place) (key : String) : Operation := .accessor (.children place key .spanQuery)

/-- Named nodes of a category. -/
def named (place : Place) (key : String) (c : Category) : Operation :=
  .accessor (.section place key (.category c))

/-- Methods of one name and key each that store any value at a place. -/
def options (place : Place) (keys : List String) : Methods :=
  keys.map fun key => (key, option place key)

/-- The methods that every node has. -/
def inspections : Methods :=
  [("_type", .inspect .tag), ("to_json", .inspect .fragment), ("get", .inspect .fragment),
    ("to_string", .inspect .text), ("__str__", .inspect .text), ("__repr__", .inspect .shown)]

end Operation

end SearchBuilder
