import SearchBuilder.Json.Writing
import SearchBuilder.Proofs.Json.Entries

/-!
# What can be written

A value can be written under a limit of digits if nothing in it keeps a text from being written
(`Json.Writable`), which is decided by its parts. A text is written if nothing that is spelled in it
is at fault (`Writing.write_eq_ok`).
-/

namespace SearchBuilder

namespace Json

variable {limit : DigitLimit} {object : Option TextFault}

/-- Nothing in a value keeps a text from being written. -/
def Writable (limit : DigitLimit) (object : Option TextFault) (j : Json) : Prop :=
  j.fault? limit object = none

instance (limit : DigitLimit) (object : Option TextFault) (j : Json) :
    Decidable (j.Writable limit object) :=
  inferInstanceAs (Decidable (j.fault? limit object = none))

theorem writable_arr {items : List Json} :
    (arr items).Writable limit object ↔ ∀ item ∈ items, item.Writable limit object := by
  unfold Writable
  rw [fault?]
  induction items with
  | nil => exact ⟨fun _ _ h => absurd h List.not_mem_nil, fun _ => rfl⟩
  | cons item rest ih =>
    rw [itemsFault?, List.forall_mem_cons, ← ih]
    exact Option.or_eq_none_iff

theorem writable_pair {first second : Json} (hfirst : first.Writable limit object)
    (hsecond : second.Writable limit object) : (arr [first, second]).Writable limit object :=
  writable_arr.2 (List.forall_mem_cons.2 ⟨hfirst, List.forall_mem_singleton.2 hsecond⟩)

theorem Writable.append {items : List Json} (h : (arr items).Writable limit object) {item : Json}
    (hitem : item.Writable limit object) : (arr (items ++ [item])).Writable limit object :=
  writable_arr.2 (List.forall_mem_append.2 ⟨writable_arr.1 h, List.forall_mem_singleton.2 hitem⟩)

theorem writable_obj {members : Entries Json} :
    (obj members).Writable limit object ↔ ∀ entry ∈ members, entry.2.Writable limit object := by
  unfold Writable
  rw [fault?]
  induction members with
  | nil => exact ⟨fun _ _ h => absurd h List.not_mem_nil, fun _ => rfl⟩
  | cons entry rest ih =>
    obtain ⟨key, value⟩ := entry
    rw [membersFault?, List.forall_mem_cons, ← ih]
    exact Option.or_eq_none_iff

theorem writable_zero : (int 0).Writable limit object := by
  cases limit with
  | none => rfl
  | some digits =>
    have hdigits : ¬ Nat.pow 10 digits ≤ (0 : Int).natAbs := by simp
    simp only [Writable, fault?, DigitLimit.excludes, Option.any_some, hdigits, decide_false,
      Bool.false_eq_true, if_false]

theorem writable_ofStrings (texts : List String) : (ofStrings texts).Writable limit object := by
  refine writable_arr.2 fun item hitem => ?_
  obtain ⟨text, -, rfl⟩ := List.mem_map.1 hitem
  rfl

mutual

/-- Without a limit every value can be shown. -/
theorem writable_free : ∀ j : Json, j.Writable none none
  | .null | .bool _ | .int _ | .float _ | .str _ | .foreign _ _ => rfl
  | .arr items => writable_arr.2 (items_writable_free items)
  | .obj members => writable_obj.2 (members_writable_free members)

theorem items_writable_free : ∀ items : List Json, ∀ item ∈ items, item.Writable none none
  | [] => fun _ h => absurd h List.not_mem_nil
  | first :: rest => List.forall_mem_cons.2 ⟨writable_free first, items_writable_free rest⟩

theorem members_writable_free :
    ∀ members : List (String × Json), ∀ entry ∈ members, entry.2.Writable none none
  | [] => fun _ h => absurd h List.not_mem_nil
  | (_, value) :: rest => List.forall_mem_cons.2 ⟨writable_free value, members_writable_free rest⟩

end

theorem Writable.member {j : Json} (h : j.Writable limit object) (key : String) :
    (j.member key).Writable limit object := by
  cases j with
  | obj members =>
    rw [Json.member]
    cases hvalue : Entries.get? members key with
    | none => rfl
    | some value => exact writable_obj.1 h _ (Entries.mem_of_get? hvalue)
  | _ => rfl

theorem Writable.setMember? {j value target : Json} (h : j.Writable limit object)
    (hvalue : value.Writable limit object) {key : String}
    (ht : j.setMember? key value = some target) : target.Writable limit object := by
  cases j with
  | obj members =>
    cases ht
    exact writable_obj.2 (Entries.forall_set (writable_obj.1 h) key hvalue)
  | _ => cases ht

theorem Writable.setMember {j value : Json} (h : j.Writable limit object)
    (hvalue : value.Writable limit object) (key : String) :
    (j.setMember key value).Writable limit object := by
  unfold Json.setMember
  cases hset : j.setMember? key value with
  | none => exact h
  | some target => exact h.setMember? hvalue hset

theorem Writable.members {j : Json} (h : j.Writable limit object) {members : Entries Json}
    (hm : j.members? = some members) : ∀ entry ∈ members, entry.2.Writable limit object :=
  writable_obj.1 (eq_obj_of_members? hm ▸ h)

theorem writable_empty : Json.empty.Writable limit object :=
  writable_obj.2 fun _ hmem => absurd hmem List.not_mem_nil

theorem writable_cons {value : Json} {rest : Entries Json} (key : String)
    (hvalue : value.Writable limit object) (hrest : (obj rest).Writable limit object) :
    (obj ((key, value) :: rest)).Writable limit object :=
  writable_obj.2 (List.forall_mem_cons.2 ⟨hvalue, writable_obj.1 hrest⟩)

theorem writable_single {value : Json} (key : String) (hvalue : value.Writable limit object) :
    (obj [(key, value)]).Writable limit object := writable_cons key hvalue writable_empty

/-- What stands under one key of an object can be put under another. -/
theorem Writable.rekey {j : Json} (h : j.Writable limit object) {members : Entries Json}
    (hmembers : j.members? = some members) (old new : String) :
    (obj (Entries.rekey members old new .empty)).Writable limit object :=
  writable_obj.2 (Entries.forall_rekey (h.members hmembers) old new writable_empty)

mutual

/-- What can be written as JSON can be shown. -/
theorem Writable.shown : ∀ {j : Json}, j.Writable limit object → j.Writable limit none
  | .null, _ | .bool _, _ | .float _, _ | .str _, _ | .foreign .., _ => rfl
  | .int _, h => h
  | .arr items, h => writable_arr.2 (items_writable_shown items (writable_arr.1 h))
  | .obj members, h => writable_obj.2 (members_writable_shown members (writable_obj.1 h))

theorem items_writable_shown : ∀ items : List Json, (∀ item ∈ items, item.Writable limit object) →
    ∀ item ∈ items, item.Writable limit none
  | [], _ => List.forall_mem_nil _
  | _ :: rest, h =>
    have h := List.forall_mem_cons.1 h
    List.forall_mem_cons.2 ⟨h.1.shown, items_writable_shown rest h.2⟩

theorem members_writable_shown : ∀ members : List (String × Json),
    (∀ entry ∈ members, entry.2.Writable limit object) →
      ∀ entry ∈ members, entry.2.Writable limit none
  | [], _ => List.forall_mem_nil _
  | _ :: rest, h =>
    have h := List.forall_mem_cons.1 h
    List.forall_mem_cons.2 ⟨h.1.shown, members_writable_shown rest h.2⟩

end

end Json

/-! ## Texts -/

namespace Writing

variable {limit : DigitLimit} {w : Writing}

theorem write_eq_error {cause : TextFault} :
    w.write limit = .error cause ↔ w.fault? limit = some cause := by
  rw [write]
  cases w.fault? limit with
  | none => exact ⟨fun h => (by cases h), fun h => (by cases h)⟩
  | some other => rw [Except.error.injEq, Option.some.injEq]

theorem write_eq_ok {text : String} :
    w.write limit = .ok text ↔ w.fault? limit = none ∧ w.text = text := by
  rw [write]
  cases w.fault? limit with
  | none => exact ⟨fun h => ⟨rfl, Except.ok.inj h⟩, fun h => congrArg Except.ok h.2⟩
  | some cause => exact ⟨fun h => (by cases h), fun h => (by cases h.1)⟩

/-- A document is refused for what is in it. -/
theorem fault?_spaced (j : Json) : (spaced j).fault? limit = j.jsonFault? limit := by
  rw [fault?, spaced, List.findSome?_singleton, List.findSome?_nil, Option.or_none]

end Writing

end SearchBuilder
