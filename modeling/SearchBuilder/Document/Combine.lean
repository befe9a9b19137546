import SearchBuilder.Document.Outcome

/-!
# Combining objects

Merging objects and moving members, for values that may turn out not to be objects.
-/

namespace SearchBuilder.Json

/-- Merges objects into a target one after the other; the last value of a key wins. -/
def extend (target : Json) : List Json → Except Fault Json
  | [] => .ok target
  | addition :: rest =>
    match addition.members?, target.members? with
    | none, _ => .error .mergesNonObject
    | some [], _ => extend target rest
    | some _, none => .error .writesNonObject
    | some additions, some members => extend (.obj (Entries.merge members additions)) rest

/-- Moves the value under `old` to `new`; an empty object stands in for an absent one. -/
def rekey (mapping : Json) (old new : String) : Except Fault Json :=
  if old = new then .ok mapping
  else
    match mapping with
    | .obj members => .ok (.obj (Entries.rekey members old new .empty))
    | .arr _ => .error .writesNonObject
    | _ => .error .readsNonObject

end SearchBuilder.Json
