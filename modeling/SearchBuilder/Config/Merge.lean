import SearchBuilder.Json.Basic

/-!
# Layered settings

A mapping of settings is laid over another: where both have mappings under a key these are merged
in turn, anywhere else the upper one wins. Keys of the lower mapping come first.
-/

namespace SearchBuilder

/-- The settings of `base` with those of `override` laid over them. -/
def mergeSettings (base : Entries Json) : List (String × Json) → Entries Json
  | [] => base
  | (key, .obj upper) :: rest =>
    let value := match Entries.get? base key with
      | some (.obj lower) => .obj (mergeSettings lower upper)
      | _ => .obj upper
    mergeSettings (Entries.set base key value) rest
  | (key, value) :: rest => mergeSettings (Entries.set base key value) rest

/-- One value laid over another, if both are mappings. -/
def Json.overlay? (base override : Json) : Option Json :=
  match base, override with
  | .obj lower, .obj upper => some (.obj (mergeSettings lower upper))
  | _, _ => none

end SearchBuilder
