import SearchBuilder.Document.Accessor

/-!
# Request body methods

The sections of a request body that are more than one option: sort clauses, the returned parts of
the source, the suggest section and the boosts of indices.
-/

namespace SearchBuilder

/-- A method that writes a section of a request body. -/
inductive BodyMethod where
  /-- Sort clauses: a name or a clause is appended, a list replaces all. -/
  | sort
  /-- Which parts of the source are returned. -/
  | source
  /-- The text to suggest for, or a named suggester. -/
  | suggest
  /-- The boost of one index. -/
  | indexBoost
  deriving DecidableEq, Repr

namespace BodyMethod

/-- The orders of a sort clause. -/
def orders : List String := ["asc", "desc"]

/-- What a request stores for a sort clause: a field name, or the fragment of a clause. -/
def clause? (n : Node) (v : Argument) : Option Json :=
  match v.text? with
  | some field => some (.str field)
  | none => if v.satisfies n (.category .sort) then some (v.snapshot n) else none

/-- A sort call with a field and an order. -/
def sortBy (n : Node) (v order : Argument) : Outcome Node :=
  match v.text?, order.text? with
  | some field, some word =>
    let folded := lower word
    if orders.contains folded then
      n.appendItem .root "sort" fun _ => .obj [(field, .obj [("order", .str folded)])]
    else .noticed n (.ignoredOrder field word)
  | _, _ => .refused n .badSortPair

/-- One text as it is, or a list of texts. -/
def patterns (v : Argument) (what : String) : Except Misuse Json :=
  match v.text?, v.names? with
  | some text, _ => .ok (.str text)
  | none, some texts => .ok (.ofStrings texts)
  | none, none => .error (.notNames what)

/-- The stored form of included and excluded patterns. -/
def sourcePatterns (includes excludes : Argument) : Except Misuse Json := do
  let included ← patterns includes "includes"
  if excludes.isNull then
    .ok (.obj [("includes", included)])
  else
    let excluded ← patterns excludes "excludes"
    .ok (.obj [("includes", included), ("excludes", excluded)])

/-- Runs a method on a request body. -/
def run (m : BodyMethod) (n : Node) (args : Arguments) : Outcome Node :=
  match m with
  | sort =>
    let v := args.first ["order"]
    let order := args.get 1 "order"
    if v.isNull then n.readOption .root "sort"
    else if !order.isNull then sortBy n v order
    else
      match v.items? with
      | some items =>
        match items.mapM (clause? n) with
        | some clauses => n.writeOption .root "sort" (.arr clauses)
        | none => .refused n .badSortItem
      | none =>
        match clause? n v with
        | some clause => n.appendItem .root "sort" fun _ => clause
        | none => .refused n .badSort
  | source =>
    let includes := args.get 0 "includes"
    let excludes := args.get 1 "excludes"
    if includes.isNull && excludes.isNull then n.readOption .root "_source"
    else
      match includes with
      | .plain (.bool b) => n.writeOption .root "_source" (.bool b)
      | .plain .null => .refused n .onlyExcludes
      | _ =>
        match sourcePatterns includes excludes with
        | .ok value => n.writeOption .root "_source" value
        | .error cause => .refused n cause
  | suggest =>
    let v := args.first
    match v.text? with
    | some text => n.mergeSection .root "suggest" fun _ => .obj [("text", .str text)]
    | none => (Accessor.section .root "suggest" (.category .suggest)).run n v
  | indexBoost =>
    let v := args.first ["boost"]
    let boost := args.get 1 "boost"
    if v.isNull then n.readOption .root "indices_boost"
    else if boost.isNull then n.readThrough ["indices_boost", v.name]
    else n.mergeSection .root "indices_boost" fun n => .obj [(v.name, boost.toJson n)]

end BodyMethod

end SearchBuilder
