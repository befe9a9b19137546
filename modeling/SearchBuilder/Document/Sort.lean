import SearchBuilder.Document.Field

/-!
# Sort methods

A sort clause stands under the field that it sorts by. Sorting by distance or by script puts it
under a key of its own and starts its options anew; the field is remembered, and for distances it
is the key of the point.
-/

namespace SearchBuilder

/-- The key of clauses that sort by distance. -/
def distanceKey : String := "_geo_distance"

/-- The key of clauses that sort by script. -/
def scriptKey : String := "_script"

namespace Node

/-- Puts the clause under another key, with a new body. -/
def switchClause (n : Node) (key : String) (body : Entries Json) : Outcome Node :=
  .shifted { n with fragment := .obj [(key, .obj body)], slot := key } [.emptied []]

/-- The clause with another field. -/
def renameClause (n : Node) (field : String) : Outcome Node :=
  if n.slot = distanceKey then n.renameInner field
  else if n.slot = scriptKey then .chained { n with inner := field }
  else
    match n.fragment.members? with
    | some members =>
      let moved := Entries.rekey members n.slot field .empty
      .shifted { n with fragment := .obj moved, slot := field, inner := field }
        [.moved [] n.slot field]
    | none => .failed n .readsNonObject

end Node

/-- A method of a sort clause. -/
inductive SortMethod where
  | field
  /-- Sets the order to a fixed direction. -/
  | direction (word : String)
  /-- Sorts by distance from a point. -/
  | geoDistance
  /-- Sorts by the value of a script. -/
  | script
  deriving DecidableEq, Repr

/-- Runs a method on a sort clause. -/
def SortMethod.run (m : SortMethod) (n : Node) (args : Arguments) : Outcome Node :=
  let v := args.first
  match m with
  | field => if v.isNull then .value n (.str n.inner) else n.renameClause v.name
  | direction word => n.writeOption .body "order" (.str word)
  | geoDistance =>
    if v.isNull then n.readThrough [distanceKey, n.inner]
    else if v.satisfies n (.category .geoPoint) then
      n.switchClause distanceKey [(n.inner, v.snapshot n)]
    else .refused n (.notExpected (.category .geoPoint))
  | script =>
    if v.isNull then n.readThrough [scriptKey, "script"]
    else if n.slot = scriptKey then n.writeOption .body "script" (v.toJson n)
    else n.switchClause scriptKey [("script", v.toJson n)]

end SearchBuilder
