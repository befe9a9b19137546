import SearchBuilder.Document.Outcome
import SearchBuilder.Document.Argument

/-!
# Decay curves

A decay function stands under the name of its curve. Another curve can be chosen at any time; the
settings stay.
-/

namespace SearchBuilder

/-- A method about the curve of a decay function. -/
inductive DecayMethod where
  /-- Chooses a curve. -/
  | choose (curve : String)
  /-- The name of the curve. -/
  | current
  deriving DecidableEq, Repr

/-- Runs a method on a decay function. -/
def DecayMethod.run (m : DecayMethod) (n : Node) : Outcome Node :=
  match m with
  | choose curve =>
    match n.fragment.members? with
    | some members =>
      let moved := Entries.rekey members n.slot curve .empty
      .shifted { n with fragment := .obj moved, slot := curve } [.moved [] n.slot curve]
    | none => .failed n .readsNonObject
  | current => .value n (.str n.slot)

end SearchBuilder
