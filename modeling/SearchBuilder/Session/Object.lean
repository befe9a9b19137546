import SearchBuilder.Request

/-!
# Objects

What a session builds and calls: nodes and requests.
-/

namespace SearchBuilder

/-- A node or a request. -/
inductive Object where
  | node (n : Node)
  | request (r : Request)

namespace Object

/-- Builds an object of a kind. -/
def build (k : Kind) (args : Arguments) : Outcome Object :=
  match k with
  | .request => (Request.build args).map request
  | k => (k.build args).map node

/-- Calls a method of an object by its name. -/
def call (o : Object) (method : String) (args : Arguments) : Outcome Object :=
  match o with
  | node n => (n.call method args).map node
  | request r => (r.call method args).map request

/-- The node that an object is, or the body that a request is about. -/
def toNode : Object → Node
  | node n => n
  | request r => r.body

/-- The view that others have of an object. -/
def toChild (o : Object) : Child := o.toNode.toChild

end Object

end SearchBuilder
