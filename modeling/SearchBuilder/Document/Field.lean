import SearchBuilder.Document.Accessor

/-!
# Field methods

Nodes about one field keep their settings under the field's name, the inner key of the body. The
field can be renamed at any time; its settings move along and stay where they are in the order of
keys only if the new name is known already.
-/

namespace SearchBuilder

namespace Node

/-- Moves what the body holds under the inner key to another key, which becomes the inner one. -/
def renameInner (n : Node) (name : String) : Outcome Node :=
  match (n.valueAt .body).members? with
  | some members =>
    let moved := Entries.rekey members n.inner name .empty
    .shifted { n.replace .body (.obj moved) with inner := name }
      [.moved (n.path .body) n.inner name]
  | none => .failed n .readsNonObject

end Node

/-- A method about the field of a node. -/
inductive FieldMethod where
  /-- The name of the field; its settings move with it. -/
  | rename
  /-- The name of a field that may have no settings yet. -/
  | renameIfSet
  /-- The value that is stored under the field's name. -/
  | value
  /-- The list of terms under the field's name: one term is appended, a list replaces all. -/
  | terms
  /-- A list of field names whose items are stored as they are. -/
  | fieldList
  deriving DecidableEq, Repr

namespace FieldMethod

/-- The terms that an argument stands for: the items of a list, or one term. -/
def termsOf (n : Node) (v : Argument) : Json :=
  match v.items? with
  | some items => .arr (items.map (·.toJson n))
  | none => .arr [v.toJson n]

/-- Runs a method on a node about a field. -/
def run (m : FieldMethod) (n : Node) (args : Arguments) : Outcome Node :=
  let v := args.first
  match m with
  | rename => if v.isNull then .value n (.str n.inner) else n.renameInner v.name
  | renameIfSet =>
    if v.isNull then .value n (.str n.inner)
    else
      match (n.valueAt .body).members? with
      | some members =>
        if Entries.contains members n.inner then n.renameInner v.name
        else .chained { n with inner := v.name }
      | none => .failed n .writesNonObject
  | value => (Accessor.option .body n.inner).run n v
  | terms =>
    if v.isNull then n.readHeld .body n.inner
    else
      match v.items? with
      | some _ => n.writeOption .body n.inner (termsOf n v)
      | none => n.appendHeld .body n.inner (v.toJson n)
  | fieldList =>
    if v.isNull then n.readOption .body "fields"
    else
      match v.items? with
      | some _ => n.writeOption .body "fields" (termsOf n v)
      | none => .refused n .notFieldList

end FieldMethod

end SearchBuilder
