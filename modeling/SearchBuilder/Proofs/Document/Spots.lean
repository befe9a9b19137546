import SearchBuilder.Document.Accessor
import SearchBuilder.Proofs.Json.Path

/-!
# Spots

A spot is one place in a node that calls read and write: the value of an option, or what the body
holds under the inner key. Each step on a node is told by what it sees at its spot and by what it
puts there (`Node.writeOption_eq` and the like), and it sees nothing else.
-/

namespace SearchBuilder

/-- What calls on a node read and write. -/
inductive Spot where
  /-- The value of an option. -/
  | option (place : Place) (key : String)
  /-- What the body holds under the inner key. -/
  | field
  deriving DecidableEq, Repr

namespace Spot

/-- The place of the value that has the spot as a member. -/
def place : Spot → Place
  | option place _ => place
  | field => .body

/-- The key of the spot at its place, in a node with an inner key. -/
def key (inner : String) : Spot → String
  | option _ key => key
  | field => inner

end Spot

namespace Node

/-- The path to a spot. -/
def spotPath (n : Node) (s : Spot) : Path := n.path s.place ++ [s.key n.inner]

/-- What a node holds at a spot, if anything; none if there is no object to hold it. -/
def look (n : Node) (s : Spot) : Option (Option Json) := n.fragment.look (n.spotPath s)

/-- The node with a value at a spot. -/
def put (n : Node) (s : Spot) (value : Json) : Node :=
  { n with fragment := n.fragment.put (n.spotPath s) value }

/-- The node with values put at spots one after the other. -/
def puts (n : Node) (writes : List (Spot × Json)) : Node :=
  writes.foldl (fun n write => n.put write.1 write.2) n

variable (n : Node) (s : Spot)

theorem puts_append (first rest : List (Spot × Json)) :
    n.puts (first ++ rest) = (n.puts first).puts rest := List.foldl_append

/-- Puts leave the kind, the slot and the inner key alone. -/
theorem puts_keys (writes : List (Spot × Json)) : (n.puts writes).kind = n.kind ∧
    (n.puts writes).slot = n.slot ∧ (n.puts writes).inner = n.inner := by
  induction writes generalizing n with
  | nil => exact ⟨rfl, rfl, rfl⟩
  | cons write rest ih => exact ih (n.put write.1 write.2)

@[simp] theorem puts_kind (writes : List (Spot × Json)) : (n.puts writes).kind = n.kind :=
  (n.puts_keys writes).1

@[simp] theorem puts_slot (writes : List (Spot × Json)) : (n.puts writes).slot = n.slot :=
  (n.puts_keys writes).2.1

@[simp] theorem puts_inner (writes : List (Spot × Json)) : (n.puts writes).inner = n.inner :=
  (n.puts_keys writes).2.2

variable {n : Node} {s t : Spot}

theorem spotPath_ne_nil (n : Node) (s : Spot) : n.spotPath s ≠ [] := by simp [spotPath]

/-! ## Looking after a put -/

/-- What is put at a spot is seen there. -/
theorem look_put_self {held : Option Json} (h : n.look s = some held) (value : Json) :
    (n.put s value).look s = some (some value) := Json.look_put_self h value

/-- What is put at a spot is not seen at one whose path parts from it. -/
theorem look_put_of_apart (h : (n.spotPath s).Apart (n.spotPath t)) (value : Json) :
    (n.put s value).look t = n.look t := Json.look_put_of_apart n.fragment h value

/-- What is written at some spots is not seen at one that all of them part from. -/
theorem look_puts_of_apart {writes : List (Spot × Json)}
    (h : ∀ write ∈ writes, (n.spotPath write.1).Apart (n.spotPath t)) :
    (n.puts writes).look t = n.look t := by
  induction writes generalizing n with
  | nil => rfl
  | cons write rest ih =>
    have hfirst := h write List.mem_cons_self
    have hrest := @ih (n.put write.1 write.2) fun later hlater =>
      h later (List.mem_cons_of_mem _ hlater)
    exact hrest.trans (look_put_of_apart hfirst _)

theorem put_same {value : Json} (h : n.look s = some (some value)) : n.put s value = n :=
  congrArg (fun fragment => { n with fragment }) (Json.put_same h)

theorem put_of_look (h : n.look s = none) (value : Json) : n.put s value = n :=
  congrArg (fun fragment => { n with fragment }) (Json.put_of_look h value)

/-! ## Places and spots -/

/-- What is seen at a spot is what the members of its place hold under its key. -/
theorem look_eq_map (n : Node) (s : Spot) :
    n.look s = (n.valueAt s.place).members?.map (Entries.get? · (s.key n.inner)) := by
  have hone (j : Json) (key : String) : j.look [key] = j.members?.map (Entries.get? · key) := by
    cases j <;> rfl
  unfold look spotPath
  cases s.place with
  | root => exact hone _ _
  | body => exact (Json.look_member _ _ (List.cons_ne_nil _ _)).trans (hone _ _)
  | inner =>
    exact (Json.look_member _ _ (List.cons_ne_nil _ _)).trans
      ((Json.look_member _ _ (List.cons_ne_nil _ _)).trans (hone _ _))

theorem look_of_valueAt {place : Place} {members : Entries Json}
    (h : n.valueAt place = .obj members) (key : String) :
    n.look (.option place key) = some (Entries.get? members key) := by
  refine (n.look_eq_map (.option place key)).trans ?_
  change (n.valueAt place).members?.map (Entries.get? · key) = _
  rw [h]
  rfl

theorem look_of_fragment {members : Entries Json} (h : n.fragment = .obj members) (key : String) :
    n.look (.option .root key) = some (Entries.get? members key) :=
  @look_of_valueAt n .root members h key

theorem look_eq_none_iff : n.look s = none ↔ (n.valueAt s.place).members? = none := by
  rw [look_eq_map, Option.map_eq_none_iff]

/-- Where something can be seen, the place is an object. -/
theorem exists_members_of_look {held : Option Json} (h : n.look s = some held) :
    ∃ members, n.valueAt s.place = .obj members ∧ Entries.get? members (s.key n.inner) = held := by
  rw [look_eq_map, Option.map_eq_some_iff] at h
  obtain ⟨members, hmembers, hheld⟩ := h
  exact ⟨members, Json.eq_obj_of_members? hmembers, hheld⟩

/-- Setting the key of a spot in its place is a put. -/
theorem replace_set {members : Entries Json} (h : n.valueAt s.place = .obj members)
    (value : Json) :
    n.replace s.place (.obj (Entries.set members (s.key n.inner) value)) = n.put s value := by
  have hput : (Json.obj members).put [s.key n.inner] value =
      .obj (Entries.set members (s.key n.inner) value) := rfl
  rw [← hput, ← h]
  unfold put spotPath
  cases hplace : s.place with
  | root => rfl
  | body =>
    rw [hplace] at h
    exact congrArg (fun fragment => { n with fragment })
      (Json.put_member h (List.cons_ne_nil _ _) value).symm
  | inner =>
    rw [hplace] at h
    obtain ⟨body, hbody⟩ := Json.exists_obj_of_member h Json.noConfusion
    refine congrArg (fun fragment => { n with fragment }) (Eq.symm ?_)
    refine (Json.put_member hbody (List.cons_ne_nil _ _) value).trans ?_
    exact congrArg _ (Json.put_member h (List.cons_ne_nil _ _) value)

/-! ## Steps -/

/-- The node with something at a spot that held nothing. -/
def opened (n : Node) (s : Spot) (start : Json) : Node :=
  match n.look s with
  | some none => n.put s start
  | _ => n

theorem opened_of_none (h : n.look s = some none) (start : Json) :
    n.opened s start = n.put s start := by rw [opened, h]

theorem opened_of_some {value : Json} (h : n.look s = some (some value)) (start : Json) :
    n.opened s start = n := by rw [opened, h]

/-- An opened slot holds what it held, or else its start. -/
theorem look_opened {held : Option Json} (h : n.look s = some held) (start : Json) :
    (n.opened s start).look s = some (some (held.getD start)) := by
  cases held with
  | none =>
    rw [opened_of_none h]
    exact look_put_self h start
  | some value =>
    rw [opened_of_some h]
    exact h

theorem opened_inner (n : Node) (s : Spot) (start : Json) : (n.opened s start).inner = n.inner := by
  unfold opened
  split <;> rfl

/-- Reading the part at a spot answers what is seen there. -/
theorem readPart_spot {held : Option Json} (h : n.look s = some held) :
    n.readPart (n.spotPath s) =
      match held with
      | none => .value n .null
      | some value => { state := n, answer := .ok (.part (n.spotPath s) value) } := by
  have hpart : n.fragment.part? (n.spotPath s) = held := by
    rw [Json.part?_eq_look _ (n.spotPath_ne_nil s)]
    exact congrArg Option.join h
  rw [readPart, hpart]
  cases held <;> rfl

theorem member_spot {value : Json} (h : n.look s = some (some value)) :
    (n.valueAt s.place).member (s.key n.inner) = value := by
  obtain ⟨members, hmembers, hheld⟩ := exists_members_of_look h
  rw [hmembers]
  exact Json.member_of_get? hheld

/-- Setting a member of a place is putting a value at the spot. -/
theorem replace_setMember {held : Option Json} (h : n.look s = some held) (value : Json) :
    n.replace s.place ((n.valueAt s.place).setMember (s.key n.inner) value) = n.put s value := by
  obtain ⟨members, hmembers, -⟩ := exists_members_of_look h
  rw [hmembers]
  exact replace_set hmembers value

variable (n : Node) (s : Spot)

/-- An option is read by what is seen at its spot. -/
theorem readOption_eq : n.readOption s.place (s.key n.inner) =
    match n.look s with
    | none => .failed n .readsNonObject
    | some none => .value n .null
    | some (some value) => { state := n, answer := .ok (.part (n.spotPath s) value) } := by
  unfold readOption
  cases hlook : n.look s with
  | none => rw [look_eq_none_iff.1 hlook]
  | some held =>
    obtain ⟨members, hmembers, -⟩ := exists_members_of_look hlook
    rw [hmembers]
    refine (readPart_spot hlook).trans ?_
    cases held <;> rfl

theorem readOption_ne_self : (n.readOption s.place (s.key n.inner)).answer ≠ .ok .self := by
  rw [readOption_eq]
  split <;> exact fun h => by cases h

/-- An option that must be there is read by what is seen at its spot. -/
theorem readHeld_eq : n.readHeld s.place (s.key n.inner) =
    match n.look s with
    | none => .failed n .readsNonObject
    | some none => .failed n .missingKey
    | some (some value) => { state := n, answer := .ok (.part (n.spotPath s) value) } := by
  unfold readHeld
  cases hlook : n.look s with
  | none => rw [look_eq_none_iff.1 hlook]
  | some held =>
    obtain ⟨members, hmembers, hheld⟩ := exists_members_of_look hlook
    rw [hmembers]
    cases held with
    | none => simp [Json.members?, Entries.contains, hheld]
    | some value =>
      simp only [Json.members?, Entries.contains, hheld, Option.isSome_some, if_true]
      exact readPart_spot hlook

/-- An option is set by putting the value at its spot, if something can be seen there. -/
theorem writeOption_eq (value : Json) : n.writeOption s.place (s.key n.inner) value =
    match n.look s with
    | none => .failed n .writesNonObject
    | some _ => .shifted (n.put s value) [.taken (n.spotPath s)] := by
  unfold writeOption
  cases hlook : n.look s with
  | none =>
    have hmembers := look_eq_none_iff.1 hlook
    cases hvalue : n.valueAt s.place with
    | obj members => rw [hvalue] at hmembers; cases hmembers
    | _ => rfl
  | some held =>
    obtain ⟨members, hmembers, -⟩ := exists_members_of_look hlook
    rw [hmembers, ← replace_set hmembers]
    rfl

/-- A slot is opened if something can be seen at its spot. -/
theorem openSlot_eq (start : Json) : n.openSlot s.place (s.key n.inner) start =
    match n.look s with
    | none => .error .readsNonObject
    | some _ => .ok (n.opened s start) := by
  unfold openSlot
  cases hlook : n.look s with
  | none => rw [look_eq_none_iff.1 hlook]
  | some held =>
    obtain ⟨members, hmembers, hheld⟩ := exists_members_of_look hlook
    rw [hmembers]
    cases held with
    | none =>
      rw [opened_of_none hlook, ← replace_set hmembers]
      simp only [Json.members?, Entries.setDefault_of_absent hheld]
    | some value =>
      have hsame := replace_set hmembers value
      rw [Entries.set_of_get? hheld] at hsame
      rw [opened_of_some hlook]
      simp only [Json.members?, Entries.setDefault_of_get? hheld]
      rw [hsame, put_same hlook]

/-- An item is appended to the list that the opened slot holds. -/
theorem appendItem_eq (item : Node → Json) : n.appendItem s.place (s.key n.inner) item =
    match n.look s with
    | none => .failed n .readsNonObject
    | some held =>
      let opened := n.opened s (.arr [])
      match held.getD (.arr []) with
      | .arr items => .chained (opened.put s (.arr (items ++ [item opened])))
      | _ => .failed opened .appendsToNonList := by
  unfold appendItem
  rw [openSlot_eq]
  cases hlook : n.look s with
  | none => rfl
  | some held =>
    have hopened := look_opened hlook (.arr [])
    have hmember := member_spot hopened
    have hput := replace_setMember hopened
    rw [opened_inner] at hmember hput
    dsimp only
    rw [hmember]
    cases held.getD (.arr []) with
    | arr items => exact congrArg Outcome.chained (hput _)
    | _ => rfl

/-- An item is appended to a list that must be there. -/
theorem appendHeld_eq (item : Json) : n.appendHeld s.place (s.key n.inner) item =
    match n.look s with
    | none => .failed n .readsNonObject
    | some none => .failed n .missingKey
    | some (some (.arr items)) => .chained (n.put s (.arr (items ++ [item])))
    | some (some _) => .failed n .appendsToNonList := by
  unfold appendHeld
  cases hlook : n.look s with
  | none => rw [look_eq_none_iff.1 hlook]
  | some held =>
    obtain ⟨members, hmembers, hheld⟩ := exists_members_of_look hlook
    rw [hmembers]
    simp only [Json.members?, hheld]
    cases held with
    | none => rfl
    | some value =>
      cases value with
      | arr items => exact congrArg Outcome.chained (replace_set hmembers _)
      | _ => rfl

/-- What is merged goes into the object that the opened slot holds. -/
theorem mergeSection_eq (addition : Node → Json) :
    n.mergeSection s.place (s.key n.inner) addition =
      match n.look s with
      | none => .failed n .readsNonObject
      | some held =>
        let opened := n.opened s .empty
        match addition opened, held.getD .empty with
        | .obj additions, .obj members =>
          .shifted (opened.put s (.obj (Entries.merge members additions)))
            (additions.map fun (name, _) => .taken (n.path s.place ++ [s.key n.inner, name]))
        | .obj [], _ => .chained opened
        | .obj _, _ => .failed opened .writesNonObject
        | _, _ => .failed opened .mergesNonObject := by
  unfold mergeSection
  rw [openSlot_eq]
  cases hlook : n.look s with
  | none => rfl
  | some held =>
    have hopened := look_opened hlook .empty
    have hmember := member_spot hopened
    have hput := replace_setMember hopened
    rw [opened_inner] at hmember hput
    dsimp only
    rw [hmember]
    cases addition (n.opened s .empty) with
    | obj additions =>
      cases held.getD .empty with
      | obj members => exact congrArg (Outcome.shifted · _) (hput _)
      | _ => cases additions <;> rfl
    | _ => rfl

end Node

end SearchBuilder
