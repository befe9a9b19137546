import SearchBuilder.Proofs.Document.Shape

/-!
# Steps on nodes of good shape

`Outcome.Sound safe` says that a call leaves a node of good shape and, with `safe`, that it can only
fail by blaming an argument. Every step that operations are made of is sound on nodes of good shape,
given that the kind offers the place, that the key is free there, and that the form of the key
admits what is stored.
-/

namespace SearchBuilder

/-- The outcome is a node of good shape and, with `safe`, only an argument is blamed. -/
structure Outcome.Sound (safe : Prop) (o : Outcome Node) : Prop where
  shaped : o.state.Shaped safe
  harmless : safe → ∀ fault, o.answer = .error fault → ∃ cause, fault = .misuse cause

namespace Outcome

variable {safe : Prop} {n : Node}

theorem sound_of_ok {o : Outcome Node} (h : o.state.Shaped safe) {a : Answer}
    (ha : o.answer = .ok a) : o.Sound safe where
  shaped := h
  harmless := by
    intro _ fault hfault
    rw [ha] at hfault
    cases hfault

theorem sound_refused (h : n.Shaped safe) (cause : Misuse) : (refused n cause).Sound safe where
  shaped := h
  harmless := by
    intro _ fault hfault
    cases hfault
    exact ⟨cause, rfl⟩

/-- A failure that cannot happen with `safe`. -/
theorem sound_failed (h : n.Shaped safe) {fault : Fault} (hsafe : ¬ safe) :
    (failed n fault).Sound safe where
  shaped := h
  harmless := fun hs => absurd hs hsafe

theorem sound_value (h : n.Shaped safe) (j : Json) : (value n j).Sound safe := sound_of_ok h rfl

theorem sound_chained (h : n.Shaped safe) : (chained n).Sound safe := sound_of_ok h rfl

theorem sound_noticed (h : n.Shaped safe) (notice : Notice) : (noticed n notice).Sound safe :=
  sound_of_ok h rfl

theorem sound_shifted (h : n.Shaped safe) (shifts : List Shift) : (shifted n shifts).Sound safe :=
  sound_of_ok h rfl

/-- Two calls in a row are sound if each is on a node of good shape. -/
theorem Sound.andThen {o : Outcome Node} {next : Node → Outcome Node} (h : o.Sound safe)
    (hnext : ∀ m, m = o.state → m.Shaped safe → (next m).Sound safe) :
    (o.andThen next).Sound safe := by
  unfold Outcome.andThen
  split
  · exact h
  · exact ⟨(hnext _ rfl h.shaped).shaped, (hnext _ rfl h.shaped).harmless⟩

end Outcome

open Outcome

/-! ## Forms of lists and sections -/

namespace Form

/-- The forms of lists. -/
def isList : Form → Bool
  | list _ | many _ _ => true
  | _ => false

/-- What a list of a form may hold. -/
def Takes : Form → Json → Prop
  | list _, _ => True
  | many expected _, j => IsDocument expected j
  | _, _ => False

/-- What may be merged into a section of a form. -/
def TakesMembers : Form → Entries Json → Prop
  | object, _ => True
  | named c, members =>
    ∀ entry ∈ members, IsDocument (.category c) (.obj [(entry.1, entry.2)])
  | _, _ => False

variable {form : Form}

theorem admits_items (hform : form.isList = true) {items : List Json}
    (h : ∀ item ∈ items, form.Takes item) : Admits form (some (.arr items)) := by
  cases form with
  | list required => exact .list items
  | many expected required => exact .many h
  | _ => cases hform

/-- What a form of lists admits is a list of what it takes. -/
theorem exists_items (hform : form.isList = true) {value : Json} (h : Admits form (some value)) :
    ∃ items, value = .arr items ∧ ∀ item ∈ items, form.Takes item := by
  cases h with
  | list items => exact ⟨items, rfl, fun _ _ => trivial⟩
  | many hitems => exact ⟨_, rfl, hitems⟩
  | _ => cases hform

theorem admits_append (hform : form.isList = true) {items : List Json} {item : Json}
    (h : Admits form (some (.arr items))) (hitem : form.Takes item) :
    Admits form (some (.arr (items ++ [item]))) := by
  obtain ⟨items', heq, hitems⟩ := exists_items hform h
  cases heq
  refine admits_items hform fun other hother => ?_
  rcases List.mem_append.1 hother with hmem | hmem
  · exact hitems other hmem
  · rw [List.mem_singleton.1 hmem]
    exact hitem

theorem admits_merge {members additions : Entries Json} (h : Admits form (some (.obj members)))
    (hadditions : form.TakesMembers additions) :
    Admits form (some (.obj (Entries.merge members additions))) := by
  cases h with
  | any => exact .any _
  | object => exact .object _
  | one => exact absurd hadditions id
  | objects => exact absurd hadditions id
  | named hmembers =>
    refine .named fun key value hvalue => ?_
    rcases Entries.get?_merge hvalue with hold | hnew
    · exact hmembers key value hold
    · exact hadditions _ hnew

theorem exists_members {additions : Entries Json} (hform : form.TakesMembers additions)
    {value : Json} (h : Admits form (some value)) : ∃ members, value = .obj members := by
  cases h with
  | any => exact absurd hform id
  | list => exact absurd hform id
  | one => exact absurd hform id
  | many => exact absurd hform id
  | _ => exact ⟨_, rfl⟩

theorem admits_empty {additions : Entries Json} (hform : form.TakesMembers additions) :
    Admits form (some .empty) := by
  cases form with
  | object => exact .object []
  | named c => exact .named fun key value h => by cases h
  | _ => exact absurd hform id

end Form

namespace Node

variable {safe : Prop} {n : Node} {place : Place} {key : String}

/-! ## Reading -/

theorem readPart_sound (h : n.Shaped safe) (path : Path) : (n.readPart path).Sound safe := by
  unfold readPart
  split
  · exact sound_of_ok h rfl
  · exact sound_value h _

/-- Reading through a path is sound if the path can be followed. -/
theorem readThrough_sound (h : n.Shaped safe) {path : Path}
    (hopens : safe → n.fragment.opens path = true) : (n.readThrough path).Sound safe := by
  unfold readThrough
  split
  · exact readPart_sound h path
  · next hclosed => exact sound_failed h fun hsafe => hclosed (hopens hsafe)

/-- Reading an option is sound. -/
theorem readOption_sound (h : n.Shaped safe) (hoffers : n.kind.offers place = true) (key : String) :
    (n.readOption place key).Sound safe := by
  unfold readOption
  split
  · exact readPart_sound h _
  · next hmembers => exact sound_failed h fun hsafe => h.members?_ne_none hoffers hsafe hmembers

/-- A key that is always there can be read. -/
theorem readHeld_sound (h : n.Shaped safe) (hoffers : n.kind.offers place = true)
    (hheld : safe → ∀ members, n.valueAt place = .obj members →
      Entries.contains members key = true) : (n.readHeld place key).Sound safe := by
  unfold readHeld
  split
  · next members hmembers =>
    have hvalue := Json.eq_obj_of_members? hmembers
    split
    · exact readPart_sound h _
    · next habsent => exact sound_failed h fun hsafe => habsent (hheld hsafe members hvalue)
  · next hmembers => exact sound_failed h fun hsafe => h.members?_ne_none hoffers hsafe hmembers

/-- A key that a kind requires is there. -/
theorem contains_of_required (h : n.Shaped safe) (hoffers : n.kind.offers place = true)
    (hsafe : safe) (hform : ((n.kind.slotsAt place).form key).isRequired = true)
    (members : Entries Json) (hvalue : n.valueAt place = .obj members) :
    Entries.contains members key = true := by
  obtain ⟨members', hvalue', hfits⟩ := h.exists_members hoffers fun _ => hsafe
  obtain rfl : members' = members := Json.obj.inj (hvalue'.symm.trans hvalue)
  have hadmits := hfits.admits key
  cases hget : Entries.get? members' key with
  | some value => exact Entries.contains_iff.2 ⟨value, hget⟩
  | none =>
    rw [hget] at hadmits
    generalize (n.kind.slotsAt place).form key = form at hform hadmits
    cases hadmits with
    | any => cases hform
    | absent habsent => exact absurd (habsent.symm.trans hform) Bool.false_ne_true

/-! ## Writing -/

/-- Setting an option is sound if its form admits the value. -/
theorem writeOption_sound (h : n.Shaped safe) (hoffers : n.kind.offers place = true)
    (hfrees : n.kind.frees place key = true) {value : Json}
    (hvalue : Admits ((n.kind.slotsAt place).form key) (some value)) :
    (n.writeOption place key value).Sound safe := by
  unfold writeOption
  cases hplace : n.valueAt place with
  | obj members => exact sound_shifted (h.set hoffers hfrees hplace fun _ => hvalue) _
  | _ => exact sound_failed h fun hsafe => h.members?_ne_none hoffers hsafe (by rw [hplace]; rfl)

/-- A slot that is opened holds what it held, or what it is begun with. -/
theorem openSlot_shaped (h : n.Shaped safe) (hoffers : n.kind.offers place = true)
    (hfrees : n.kind.frees place key = true) {start : Json} {opened : Node}
    (hstart : Admits ((n.kind.slotsAt place).form key) (some start))
    (hopen : n.openSlot place key start = .ok opened) :
    opened.Shaped safe ∧ ∃ members, opened.valueAt place = .obj members ∧
      (∃ value, Entries.get? members key = some value) := by
  unfold openSlot at hopen
  split at hopen
  · next members hmembers =>
    cases hopen
    have hplace := Json.eq_obj_of_members? hmembers
    have hvalue := h.valueAt_replace hoffers (.obj (Entries.setDefault members key start))
    cases hget : Entries.get? members key with
    | some old =>
      rw [Entries.setDefault_of_get? hget] at hvalue ⊢
      refine ⟨h.edit hoffers hfrees hplace (fun _ _ => rfl) fun hsafe => ?_, members, hvalue, old,
        hget⟩
      obtain ⟨members', hplace', hfits⟩ := h.exists_members hoffers hsafe
      obtain rfl : members' = members := Json.obj.inj (hplace'.symm.trans hplace)
      exact hfits.admits key
    | none =>
      rw [Entries.setDefault_of_absent hget] at hvalue ⊢
      exact ⟨h.set hoffers hfrees hplace fun _ => hstart, _, hvalue, start,
        Entries.get?_set_self _ _ _⟩
  · cases hopen

/-- With `safe` every slot of a place that is offered can be opened. -/
theorem openSlot_ne_error (h : n.Shaped safe) (hoffers : n.kind.offers place = true) (hsafe : safe)
    {start : Json} {fault : Fault} : n.openSlot place key start ≠ .error fault := by
  obtain ⟨members, hvalue, -⟩ := h.exists_members hoffers fun _ => hsafe
  unfold openSlot
  rw [hvalue]
  intro hopen
  cases hopen

theorem openSlot_kind {start : Json} {opened : Node}
    (hopen : n.openSlot place key start = .ok opened) : opened.kind = n.kind :=
  (n.openSlot_keeps hopen).kind

/-- What a place of good shape holds is admitted by its form. -/
theorem admits_member (h : n.Shaped safe) (hoffers : n.kind.offers place = true)
    (hsafe : place = .inner → safe) {members : Entries Json}
    (hvalue : n.valueAt place = .obj members) {value : Json}
    (hget : Entries.get? members key = some value) :
    Admits ((n.kind.slotsAt place).form key) (some value) := by
  obtain ⟨members', hplace, hfits⟩ := h.exists_members hoffers hsafe
  obtain rfl : members' = members := Json.obj.inj (hplace.symm.trans hvalue)
  rw [← hget]
  exact hfits.admits key

/-- Appending an item is sound if the form of the slot takes it. -/
theorem appendItem_sound (h : n.Shaped safe) (hoffers : n.kind.offers place = true)
    (hfrees : n.kind.frees place key = true)
    (hform : ((n.kind.slotsAt place).form key).isList = true) {item : Node → Json}
    (hitem : ∀ m : Node, m.kind = n.kind → m.Shaped safe →
      ((n.kind.slotsAt place).form key).Takes (item m)) :
    (n.appendItem place key item).Sound safe := by
  unfold appendItem
  cases hopen : n.openSlot place key (.arr []) with
  | error fault => exact sound_failed h fun hsafe => openSlot_ne_error h hoffers hsafe hopen
  | ok opened =>
    have hkind := openSlot_kind hopen
    obtain ⟨hopened, members, hvalue, value, hget⟩ := openSlot_shaped h hoffers hfrees
      (Form.admits_items hform fun _ hmem => absurd hmem List.not_mem_nil) hopen
    rw [← hkind] at hoffers hfrees hform
    dsimp only
    rw [hvalue, Json.member_of_get? hget]
    split
    · next items =>
      refine sound_chained (hopened.set hoffers hfrees hvalue fun hsafe => ?_)
      have hitems := admits_member hopened hoffers hsafe hvalue hget
      -- The receiver may be its own item: it is taken as it is once the slot is open.
      refine Form.admits_append hform hitems ?_
      rw [hkind]
      exact hitem opened hkind hopened
    · next hnolist =>
      refine sound_failed hopened fun hsafe => ?_
      obtain ⟨items, rfl, -⟩ := Form.exists_items hform
        (admits_member hopened hoffers (fun _ => hsafe) hvalue hget)
      exact hnolist items rfl

theorem appendHeld_sound (h : n.Shaped safe) (hoffers : n.kind.offers place = true)
    (hfrees : n.kind.frees place key = true)
    (hform : ((n.kind.slotsAt place).form key) = .list true) (item : Json) :
    (n.appendHeld place key item).Sound safe := by
  unfold appendHeld
  cases hplace : n.valueAt place with
  | obj members =>
    simp only [Json.members?]
    split
    · refine sound_chained (h.set hoffers hfrees hplace fun _ => ?_)
      rw [hform]
      exact .list _
    · next value hnolist hget =>
      refine sound_failed h fun hsafe => ?_
      obtain ⟨items, rfl, -⟩ := Form.exists_items (by rw [hform]; rfl)
        (admits_member h hoffers (fun _ => hsafe) hplace hget)
      exact hnolist items rfl
    · next habsent =>
      refine sound_failed h fun hsafe => ?_
      obtain ⟨value, hvalue⟩ := Entries.contains_iff.1
        (contains_of_required h hoffers hsafe (by rw [hform]; rfl) members hplace)
      rw [habsent] at hvalue
      cases hvalue
  | _ => exact sound_failed h fun hsafe => h.members?_ne_none hoffers hsafe (by rw [hplace]; rfl)

/-- Merging into a section is sound if its form takes what is merged. -/
theorem mergeSection_sound (h : n.Shaped safe) (hoffers : n.kind.offers place = true)
    (hfrees : n.kind.frees place key = true) {addition : Node → Json}
    (haddition : ∀ m : Node, m.kind = n.kind → m.Shaped safe → ∃ additions,
      addition m = .obj additions ∧ ((n.kind.slotsAt place).form key).TakesMembers additions) :
    (n.mergeSection place key addition).Sound safe := by
  unfold mergeSection
  cases hopen : n.openSlot place key .empty with
  | error fault => exact sound_failed h fun hsafe => openSlot_ne_error h hoffers hsafe hopen
  | ok opened =>
    obtain ⟨start, -, hstart⟩ := haddition n rfl h
    have hkind := openSlot_kind hopen
    obtain ⟨hopened, members, hvalue, value, hget⟩ :=
      openSlot_shaped h hoffers hfrees (Form.admits_empty hstart) hopen
    obtain ⟨additions, heq, htakes⟩ := haddition opened hkind hopened
    rw [← hkind] at hoffers hfrees htakes
    dsimp only
    rw [hvalue, Json.member_of_get? hget, heq]
    cases value with
    | obj old =>
      refine sound_shifted (hopened.set hoffers hfrees hvalue fun hsafe => ?_) _
      exact Form.admits_merge (admits_member hopened hoffers hsafe hvalue hget) htakes
    | _ =>
      -- A section that is no object is only met without `safe`; adding nothing still succeeds.
      have hunsafe : ¬ safe := fun hsafe => by
        obtain ⟨old, hold⟩ := Form.exists_members htakes
          (admits_member hopened hoffers (fun _ => hsafe) hvalue hget)
        cases hold
      cases additions with
      | nil => exact sound_chained hopened
      | cons entry rest => exact sound_failed hopened hunsafe

end Node

end SearchBuilder
