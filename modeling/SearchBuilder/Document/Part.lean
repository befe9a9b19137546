import SearchBuilder.Json.Basic

/-!
# Parts of fragments

A read answers a part of a fragment and not a copy of it: what is put into that part later belongs
to the answer too. A part is known by its path, the keys that lead to it. Calls may take parts out
of a fragment, by storing another value in their place, or move them to another key; a `Shift`
tells what became of them, and `Shift.follow` finds a part again.

Items of lists are never parts of their own: no call changes one.
-/

namespace SearchBuilder

/-- The keys that lead from a fragment to one of its parts. -/
abbrev Path := List String

/-- The part at a path, if there is one. -/
def Json.part? : Json → Path → Option Json
  | j, [] => some j
  | .obj members, key :: rest =>
    match Entries.get? members key with
    | some value => value.part? rest
    | none => none
  | _, _ :: _ => none

/-- Whether all that lies on the way along a path is objects, as far as the path leads. -/
def Json.opens : Json → Path → Bool
  | _, [] => true
  | .obj members, key :: rest =>
    match Entries.get? members key with
    | some value => value.opens rest
    | none => true
  | _, _ :: _ => false

/-- What a call does to the parts of a fragment. -/
inductive Shift where
  /-- The part at a path is taken out, whether or not another value takes its place. -/
  | taken (path : Path)
  /-- All members of the part at a path are taken out. -/
  | emptied (path : Path)
  /-- The part at a path holds under `new` what it held under `old`. -/
  | moved (path : Path) (old new : String)
  deriving DecidableEq, Repr

namespace Shift

/-- Where the part at `target` is after a shift; none if it was taken out. -/
def follow (target : Path) : Shift → Option Path
  | taken path => if path.isPrefixOf target then none else some target
  | emptied path =>
    if path.isPrefixOf target && path.length < target.length then none else some target
  | moved path old new =>
    if old ≠ new && path.isPrefixOf target then
      match target.drop path.length with
      | [] => some target
      | key :: rest =>
        if key = old then some (path ++ new :: rest)
        else if key = new then none
        else some target
    else some target

/-- Where the part at `target` is after some shifts in turn. -/
def followAll (target : Path) (shifts : List Shift) : Option Path :=
  shifts.foldlM follow target

end Shift

end SearchBuilder
