import SearchBuilder.Catalog
import SearchBuilder.Text.Percent

/-!
# Search requests

A request is a body, which is a node, and a target: the indices and types that are searched, the
routing, and the URL parameters in the order in which they were first set. Index and type names are
kept without repetition. Types can only be addressed below an index, so a request with types and
no index searches the index `_all`.
-/

namespace SearchBuilder

/-- The index that stands for all indices. -/
def allIndices : String := "_all"

/-- A search request. -/
structure Request where
  body : Node
  indices : List String := []
  types : List String := []
  routing : String := ""
  params : Entries Json := []

/-- A method about the target of a request. -/
inductive TargetMethod where
  | indices
  | types
  | routing
  | searchType
  | preference
  | path
  deriving DecidableEq, Repr

namespace Request

/-- The request without target and body. -/
def empty : Request := { body := { kind := .request, fragment := .empty } }

/-- The request with all indices as its target if it has types but no index. -/
def coerceIndices (r : Request) : Request :=
  if r.indices.isEmpty && !r.types.isEmpty then { r with indices := [allIndices] } else r

/-- The parameters of the path: the routing, unless it is empty, and the URL parameters. -/
def pathParams (r : Request) : List (String × String) :=
  (if r.routing.isEmpty then [] else [("routing", r.routing)]) ++
    r.params.map fun (key, value) => (key, value.plainText)

/-- The names of one segment of the path. -/
def segment (names : List String) : String :=
  if names.isEmpty then "" else "/" ++ ",".intercalate names

/-- The indices and types of the path. -/
def target (r : Request) : String := segment r.indices ++ segment r.types

/-- One parameter of the path. -/
def paramText (param : String × String) : String :=
  param.1 ++ "=" ++ String.ofList (Percent.encode param.2.toList)

/-- The path to which the search is sent. -/
def path (r : Request) : String :=
  let params := r.pathParams
  r.target ++ "/_search" ++
    (if params.isEmpty then "" else "?" ++ "&".intercalate (params.map paramText))

/-- The path with the values of the parameters that are shown in it. -/
def pathWriting (r : Request) : Writing := { text := r.path, shown := r.params.map (·.2) }

/-- The body as it is sent. -/
def bodyWriting (r : Request) : Writing := .spaced r.body.fragment

/-! ## Methods -/

/-- Names without repetition. -/
def distinctNames? (v : Argument) : Option (List String) := v.names?.map List.eraseDups

/-- The URL parameters as a node, so that they have accessors. -/
def paramsNode (r : Request) : Node := { kind := .request, fragment := .obj r.params }

/-- Runs an accessor on the URL parameters, which are no part of the body. -/
def runParam (r : Request) (a : Accessor) (v : Argument) : Outcome Request :=
  let outcome := a.run r.paramsNode v
  { state := { r with params := (outcome.state.fragment.members?).getD r.params }
    answer := outcome.answer.map fun
      | .part _ j => .value j
      | answer => answer
    notices := outcome.notices }

end Request

/-- Runs a method about the target. Without an argument it reads. -/
def TargetMethod.run (m : TargetMethod) (r : Request) (args : Arguments) : Outcome Request :=
  let v := args.first
  match m with
  | indices =>
    if v.isNull then .value r (.ofStrings r.indices)
    else
      match Request.distinctNames? v with
      | some names => .chained { r with indices := names }.coerceIndices
      | none => .refused r (.notNames "indices")
  | types =>
    if v.isNull then .value r (.ofStrings r.types)
    else
      match Request.distinctNames? v with
      | some names => .chained { r with types := names }.coerceIndices
      | none => .refused r (.notNames "types")
  | routing =>
    if v.isNull then .value r (.str r.routing)
    else
      match v.text? with
      | some text => .chained { r with routing := text }
      | none => .refused r (.notText "routing")
  | searchType => r.runParam (.choice .root "search_type" Words.searchTypes .lower) v
  | preference => r.runParam (.option .root "preference") v
  | path => { state := r, answer := .ok (.text r.pathWriting) }

namespace Request

/-- The methods about the target. -/
def targetMethods : List (String × TargetMethod) :=
  [("indices", .indices), ("types", .types), ("routing", .routing), ("search_type", .searchType),
    ("preference", .preference), ("path", .path)]

/-- Calls a method of a request by its name. -/
def call (r : Request) (method : String) (args : Arguments) : Outcome Request :=
  match Entries.get? targetMethods method with
  | some target => target.run r args
  | none => (r.body.call method args).map fun n => { r with body := n }

/-- A request for indices and types with a routing, all of which may be missing. -/
def build (args : Arguments) : Outcome Request :=
  let given (m : TargetMethod) (index : Nat) (name : String) (r : Request) : Outcome Request :=
    m.run r (.one (args.get index name))
  (given .indices 0 "indices" empty).andThen fun r =>
    (given .types 1 "types" r).andThen (given .routing 2 "routing")

end Request

end SearchBuilder
