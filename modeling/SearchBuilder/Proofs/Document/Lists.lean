import SearchBuilder.Proofs.Document.Frame

/-!
# Lists of nodes

A list slot of a kind is where one of its methods appends a node or stores a list of nodes.
`Node.Lists` says what a list slot of a node holds. An accepted call on the slot adds its `Gift`
(`Node.Lists.children`), and every other call on the node leaves the list as it is
(`Node.Lists.call`), because no other method of the kind comes near the slot
(`Kind.spares_methods`).
-/

namespace SearchBuilder

/-! ## Gifts -/

/-- What a call gives to a list slot. -/
inductive Gift where
  | list (items : List Json)
  | one (item : Json)

/-- The items of a list slot after a gift. -/
def Gift.fill (before : Option (List Json)) : Gift → List Json
  | list items => items
  | one item => before.getD [] ++ [item]

namespace Argument

/-- The fragment of the node that an argument is. -/
def fragment : Argument → Json
  | node child => child.fragment
  | _ => .null

/-- The fragments that an argument gives to a list slot. -/
def gift (v : Argument) : Gift :=
  match v.items? with
  | some items => .list (items.map fragment)
  | none => .one v.fragment

/-- Neither the receiver nor a list with the receiver in it. -/
structure IsOther (v : Argument) : Prop where
  self : v ≠ .receiver
  items : ∀ items, v.items? = some items → .receiver ∉ items

variable {n : Node} {v : Argument} {expected : Expected}

/-- Another node is copied as it is shown. -/
theorem snapshot_eq_fragment (h : v.satisfies n expected = true) (hv : v ≠ .receiver) (m : Node) :
    v.snapshot m = v.fragment := by
  cases v with
  | node child => rfl
  | receiver => exact absurd rfl hv
  | _ => cases h

theorem map_snapshot_eq_fragment {items : List Argument}
    (h : items.all (·.satisfies n expected) = true) (hv : .receiver ∉ items) (m : Node) :
    items.map (·.snapshot m) = items.map fragment := by
  refine List.map_congr_left fun item hitem => ?_
  refine snapshot_eq_fragment (List.all_eq_true.1 h item hitem) ?_ m
  rintro rfl
  exact hv hitem

end Argument

/-! ## List slots -/

/-- The list slot of an operation that appends nodes or stores a list of them. -/
def Operation.listSlot? : Operation → Option (Place × String)
  | .accessor (.children place key _) => some (place, key)
  | _ => none

/-- An operation with a slot for lists is an accessor for children. -/
theorem Operation.exists_of_listSlot? {op : Operation} {place : Place} {key : String}
    (h : op.listSlot? = some (place, key)) :
    ∃ expected, op = .accessor (.children place key expected) := by
  unfold listSlot? at h
  split at h
  · next expected =>
    cases h
    exact ⟨expected, rfl⟩
  · cases h

namespace Kind

/-- The list slots of a kind, one for each of its methods that fill one. -/
def listSlots (k : Kind) : List (Place × String) := k.methods.filterMap (·.2.listSlot?)

/-- Whether a method of a kind fills a list slot. -/
def fills (k : Kind) (place : Place) (key method : String) : Bool :=
  (Entries.get? k.methods method).any (·.listSlot? = some (place, key))

/-- A method that fills a slot for lists is an accessor for children. -/
theorem exists_of_fills {k : Kind} {place : Place} {key method : String}
    (h : k.fills place key method = true) : ∃ expected,
    Entries.get? k.methods method = some (.accessor (.children place key expected)) := by
  unfold fills at h
  cases hop : Entries.get? k.methods method with
  | none =>
    rw [hop] at h
    cases h
  | some op =>
    rw [hop, Option.any_some, decide_eq_true_eq] at h
    obtain ⟨expected, rfl⟩ := Operation.exists_of_listSlot? h
    exact ⟨expected, rfl⟩

/-- The kinds whose list slot is there from the start. -/
def startsEmpty : Kind → Bool
  | query .spanNear | query .spanOr | filter .and | filter .or => true
  | _ => false

/-- The inner key of the kinds that keep a list slot under one. -/
def listInner : Kind → String
  | suggester k => k.type
  | _ => ""

end Kind

/-! ## Places -/

namespace Node

/-- A node is an envelope with members at a place: in its body, or under the inner key. -/
def HasMembers (n : Node) (members : Entries Json) : Place → Prop
  | .root => False
  | .body => n.fragment = .obj [(n.slot, .obj members)]
  | .inner => ∃ body, n.fragment = .obj [(n.slot, .obj body)] ∧
      Entries.get? body n.inner = some (.obj members)

/-- Whether an option is neither a list slot nor on the way to it. -/
def apart (inner : String) (place : Place) (key : String) (place' : Place) (key' : String) : Bool :=
  if place' = place then key' ≠ key else place' = .body && place = .inner && key' ≠ inner

/-- What a list slot of a node holds. -/
structure Lists (n : Node) (place : Place) (key : String) (items? : Option (List Json)) : Prop where
  inner : n.inner = n.kind.listInner
  holds : ∃ members, n.HasMembers members place ∧ Entries.get? members key = items?.map .arr

/-- The value of an option. -/
def held (n : Node) (place : Place) (key : String) : Option Json :=
  (n.valueAt place).members? >>= (Entries.get? · key)

variable {n : Node} {place place' : Place} {key key' : String} {items? : Option (List Json)}
variable {members m m' : Entries Json}

theorem HasMembers.valueAt_body {body : Entries Json}
    (h : n.fragment = .obj [(n.slot, .obj body)]) : n.valueAt .body = .obj body := by
  simp [valueAt, h, Json.member, Entries.get?]

theorem HasMembers.valueAt_inner {body : Entries Json}
    (h : n.fragment = .obj [(n.slot, .obj body)])
    (hinner : Entries.get? body n.inner = some (.obj members)) :
    n.valueAt .inner = .obj members := by
  change (n.valueAt .body).member n.inner = .obj members
  rw [valueAt_body h]
  exact Json.member_of_get? hinner

theorem HasMembers.valueAt (h : n.HasMembers members place) : n.valueAt place = .obj members := by
  cases place with
  | root => exact absurd h id
  | body => exact valueAt_body h
  | inner =>
    obtain ⟨body, hbody, hget⟩ := h
    exact valueAt_inner hbody hget

theorem replace_body {body body' : Entries Json} (h : n.fragment = .obj [(n.slot, .obj body)]) :
    (n.replace .body (.obj body')).fragment = .obj [(n.slot, .obj body')] := by
  simp [replace, h, Json.setMember, Json.setMember?, Entries.set]

theorem replace_envelope {body : Entries Json} (h : n.fragment = .obj [(n.slot, .obj body)])
    (body' : Entries Json) :
    n.replace .body (.obj body') = { n with fragment := .obj [(n.slot, .obj body')] } :=
  congrArg (fun fragment => ({ n with fragment } : Node)) (replace_body h)

theorem writeOption_envelope {body : Entries Json} (h : n.fragment = .obj [(n.slot, .obj body)])
    (key : String) (value : Json) :
    n.writeOption .body key value =
      .shifted { n with fragment := .obj [(n.slot, .obj (Entries.set body key value))] }
        [.taken [n.slot, key]] := by
  unfold writeOption
  rw [HasMembers.valueAt_body h]
  exact congrArg (Outcome.shifted · _) (replace_envelope h _)

theorem renameInner_envelope {body : Entries Json} (h : n.fragment = .obj [(n.slot, .obj body)])
    (name : String) :
    n.renameInner name = .shifted
      { n with
        fragment := .obj [(n.slot, .obj (Entries.rekey body n.inner name .empty))], inner := name }
      [.moved [n.slot] n.inner name] := by
  unfold renameInner
  rw [HasMembers.valueAt_body h]
  exact congrArg (fun m : Node => Outcome.shifted { m with inner := name } _) (replace_envelope h _)

theorem HasMembers.replace (h : n.HasMembers m place) :
    (n.replace place (.obj m')).HasMembers m' place := by
  cases place with
  | root => exact absurd h id
  | body => exact replace_body h
  | inner =>
    obtain ⟨body, hbody, hget⟩ := h
    have hvalue : n.fragment.member n.slot = .obj body := valueAt_body hbody
    refine ⟨Entries.set body n.inner (.obj m'), ?_, Entries.get?_set_self _ _ _⟩
    rw [show n.replace .inner (.obj m') = n.replace .body _ from rfl, hvalue]
    exact replace_body hbody

/-- What a slot for lists holds is the list. -/
theorem Lists.held_eq (h : n.Lists place key items?) : n.held place key = items?.map .arr := by
  obtain ⟨members, hmembers, hget⟩ := h.holds
  rw [held, hmembers.valueAt]
  exact hget

/-- Members of a place may change wherever the list slot is apart. -/
theorem Lists.edit (h : n.Lists place key items?)
    (hapart : apart n.kind.listInner place key place' key' = true) (hm : n.valueAt place' = .obj m)
    (hother : ∀ other, key' ≠ other → Entries.get? m' other = Entries.get? m other) :
    (n.replace place' (.obj m')).Lists place key items? := by
  obtain ⟨members, hmembers, hget⟩ := h.holds
  have hkeeps := n.replace_keeps place' (.obj m')
  have hinner : (n.replace place' (.obj m')).inner = n.inner := by cases place' <;> rfl
  refine ⟨?_, ?_⟩
  · rw [hinner, hkeeps.kind, h.inner]
  unfold apart at hapart
  split at hapart
  · next hplace =>
    subst hplace
    obtain rfl : members = m := Json.obj.inj (hmembers.valueAt.symm.trans hm)
    refine ⟨m', hmembers.replace, ?_⟩
    rw [hother key (of_decide_eq_true hapart), hget]
  · simp only [Bool.and_eq_true, decide_eq_true_eq] at hapart
    obtain ⟨⟨rfl, rfl⟩, hkey⟩ := hapart
    obtain ⟨body, hbody, hinside⟩ := hmembers
    obtain rfl : body = m := Json.obj.inj ((HasMembers.valueAt_body hbody).symm.trans hm)
    refine ⟨members, ⟨m', replace_body hbody, ?_⟩, hget⟩
    rw [hinner, hother n.inner (by rwa [h.inner]), hinside]

/-- Setting a member apart from the slot keeps the list. -/
theorem Lists.set (h : n.Lists place key items?)
    (hapart : apart n.kind.listInner place key place' key' = true) (hm : n.valueAt place' = .obj m)
    (value : Json) : (n.replace place' (.obj (Entries.set m key' value))).Lists place key items? :=
  h.edit hapart hm fun _ hne => Entries.get?_set_of_ne m hne value

/-! ## Steps apart from a list slot -/

section Apart

variable (h : n.Lists place key items?)
  (hapart : apart n.kind.listInner place key place' key' = true)
include h hapart

theorem writeOption_lists (value : Json) :
    (n.writeOption place' key' value).state.Lists place key items? := by
  unfold writeOption
  cases hm : n.valueAt place' with
  | obj m => exact h.set hapart hm value
  | _ => exact h

theorem openSlot_lists {start : Json} {opened : Node}
    (hopen : n.openSlot place' key' start = .ok opened) : opened.Lists place key items? := by
  unfold openSlot at hopen
  split at hopen
  · next m hm =>
    cases hopen
    unfold Entries.setDefault
    split
    · exact h.edit hapart (Json.eq_obj_of_members? hm) fun _ _ => rfl
    · exact h.set hapart (Json.eq_obj_of_members? hm) start
  · cases hopen

theorem appendItem_lists (item : Node → Json) :
    (n.appendItem place' key' item).state.Lists place key items? := by
  unfold appendItem
  split
  · exact h
  · next opened hopen =>
    have hopened := openSlot_lists h hapart hopen
    have hkind := (n.openSlot_keeps hopen).kind
    dsimp only
    split
    · next items hitems =>
      obtain ⟨m, hm⟩ := Json.exists_obj_of_member hitems Json.noConfusion
      rw [hm]
      exact hopened.set (hkind ▸ hapart) hm _
    · exact hopened

theorem appendHeld_lists (item : Json) :
    (n.appendHeld place' key' item).state.Lists place key items? := by
  unfold appendHeld
  split
  · next m hm =>
    split
    · exact h.set hapart (Json.eq_obj_of_members? hm) _
    · exact h
    · exact h
  · exact h

theorem mergeSection_lists (addition : Node → Json) :
    (n.mergeSection place' key' addition).state.Lists place key items? := by
  unfold mergeSection
  split
  · exact h
  · next opened hopen =>
    have hopened := openSlot_lists h hapart hopen
    have hkind := (n.openSlot_keeps hopen).kind
    dsimp only
    split
    · next additions members _ hmembers =>
      obtain ⟨m, hm⟩ := Json.exists_obj_of_member hmembers Json.noConfusion
      rw [hm]
      exact hopened.set (hkind ▸ hapart) hm _
    · exact hopened
    · exact hopened
    · exact hopened

end Apart

end Node

/-! ## Methods apart from a list slot -/

/-- The key of the settings that a method of a suggester is about. -/
def SuggestionMethod.key : SuggestionMethod → String
  | linearSmoothing | laplaceSmoothing | backoffSmoothing => "smoothing"
  | changeTags => "highlight"
  | fuzzy | fuzzyOption _ => "fuzzy"

/-- Whether an operation stays away from a list slot. -/
def Operation.spares (inner : String) (place : Place) (key : String) : Operation → Bool
  | .accessor a => Node.apart inner place key a.place a.key
  | .suggestion m => Node.apart inner place key .inner m.key
  | .inspect _ => true
  | _ => false

section Spares

variable {n : Node} {place : Place} {key : String} {items? : Option (List Json)}
  (h : n.Lists place key items?)
include h

/-- An accessor apart from the slot keeps the list. -/
theorem Accessor.run_lists {a : Accessor}
    (hapart : Node.apart n.kind.listInner place key a.place a.key = true) (v : Argument) :
    (a.run n v).state.Lists place key items? := by
  unfold run
  split
  · cases a <;> simp only [read, Node.readOption_state, Node.readHeld_state] <;> exact h
  · cases a <;> simp only [write] <;> (repeat' split) <;>
      first
      | exact Node.writeOption_lists h hapart _
      | exact Node.appendItem_lists h hapart _
      | exact Node.appendHeld_lists h hapart _
      | exact Node.mergeSection_lists h hapart _
      | exact h

theorem SuggestionMethod.run_lists {m : SuggestionMethod}
    (hapart : Node.apart n.kind.listInner place key .inner m.key = true) (args : Arguments) :
    (m.run n args).state.Lists place key items? := by
  cases m with
  | fuzzy =>
    simp only [run]
    split
    · rw [Node.readOption_state]
      exact h
    · split
      · exact h
      · next members hmembers =>
        have hm := Json.eq_obj_of_members? hmembers
        split
        · unfold Outcome.chained Entries.setDefault
          dsimp only
          split
          · exact h.edit hapart hm fun _ _ => rfl
          · exact h.set hapart hm _
        · exact h.edit hapart hm fun other hne => Entries.get?_erase_of_ne members hne
  | _ =>
    simp only [run]
    (repeat' split) <;>
      first
      | exact Node.writeOption_lists h hapart _
      | exact Node.mergeSection_lists h hapart _
      | exact (Node.readOption_state n _ _).symm ▸ h
      | exact (Node.readThrough_state n _).symm ▸ h
      | exact h

/-- An operation that spares the slot keeps the list. -/
theorem Operation.run_lists {op : Operation} (hspares : op.spares n.kind.listInner place key = true)
    (args : Arguments) : (op.run n args).state.Lists place key items? := by
  cases op with
  | accessor a => exact Accessor.run_lists h hspares _
  | suggestion m => exact SuggestionMethod.run_lists h hspares args
  | inspect i =>
    have hstate : (i.run n).state = n := by
      cases i with
      | fragment => exact n.readPart_state []
      | tag | text | shown => rfl
    exact hstate.symm ▸ h
  | _ => cases hspares

end Spares

/-- A method of a kind fills a list slot or stays away from it. -/
theorem Kind.spares_methods (k : Kind) : ∀ slot ∈ k.listSlots, ∀ entry ∈ k.methods,
    entry.2.listSlot? = some slot ∨ entry.2.spares k.listInner slot.1 slot.2 = true := by
  cases k with
  | query k => cases k <;> decide +kernel
  | filter k => cases k <;> decide +kernel
  | score k => cases k <;> decide +kernel
  | aggregation k => cases k <;> decide +kernel
  | facet k => cases k <;> decide +kernel
  | suggester k => cases k <;> decide +kernel
  | _ => decide +kernel

/-! ## Accepted gifts -/

namespace Node

variable {n : Node} {place : Place} {key : String} {items? : Option (List Json)}

/-- Filling the slot makes the list what is filled in. -/
theorem Lists.fill (h : n.Lists place key items?) {members : Entries Json}
    (hmembers : n.HasMembers members place) (items : List Json) :
    (n.replace place (.obj (Entries.set members key (.arr items)))).Lists place key
      (some items) := by
  have hkind := (n.replace_keeps place (.obj (Entries.set members key (.arr items)))).kind
  have hinner : (n.replace place (.obj (Entries.set members key (.arr items)))).inner =
      n.inner := by cases place <;> rfl
  refine ⟨?_, _, hmembers.replace, Entries.get?_set_self _ _ _⟩
  rw [hinner, hkind, h.inner]

theorem Lists.writeOption (h : n.Lists place key items?) (items : List Json) :
    let o := n.writeOption place key (.arr items)
    o.answer = .ok .self ∧ o.state.Lists place key (some items) := by
  obtain ⟨members, hmembers, -⟩ := h.holds
  have hset : (n.valueAt place).setMember? key (.arr items) =
      some (.obj (Entries.set members key (.arr items))) := by
    rw [hmembers.valueAt]
    rfl
  simp only [Node.writeOption, hset]
  exact ⟨rfl, h.fill hmembers items⟩

/-- The item is made of the node in which the list is begun already. -/
theorem Lists.appendItem (h : n.Lists place key items?) (make : Node → Json) :
    let o := n.appendItem place key make
    o.answer = .ok .self ∧
      ∃ opened, o.state.Lists place key (some (items?.getD [] ++ [make opened])) := by
  obtain ⟨members, hmembers, hget⟩ := h.holds
  -- The slot is opened with the list that it holds, or with an empty one.
  obtain ⟨opened, m, hopen, hm, hitems, hlists⟩ : ∃ opened m,
      n.openSlot place key (.arr []) = .ok opened ∧ opened.HasMembers m place ∧
        Entries.get? m key = some (.arr (items?.getD [])) ∧
        opened.Lists place key (some (items?.getD [])) := by
    have hopen : n.openSlot place key (.arr []) =
        .ok (n.replace place (.obj (Entries.setDefault members key (.arr [])))) := by
      rw [openSlot, hmembers.valueAt]
      rfl
    refine ⟨_, Entries.setDefault members key (.arr []), hopen, hmembers.replace, ?_, ?_⟩
    · cases items? with
      | none =>
        rw [Entries.setDefault_of_absent hget, Entries.get?_set_self]
        rfl
      | some items =>
        rw [Entries.setDefault_of_get? hget, hget]
        rfl
    · cases items? with
      | none =>
        rw [Entries.setDefault_of_absent hget]
        exact h.fill hmembers []
      | some items =>
        rw [Entries.setDefault_of_get? hget, ← Entries.set_of_get? hget]
        exact h.fill hmembers items
  have htarget : (opened.valueAt place).member key = .arr (items?.getD []) := by
    rw [hm.valueAt]
    exact Json.member_of_get? hitems
  have hset : (opened.valueAt place).setMember key (.arr (items?.getD [] ++ [make opened])) =
      .obj (Entries.set m key (.arr (items?.getD [] ++ [make opened]))) := by
    rw [hm.valueAt]
    rfl
  simp only [Node.appendItem, hopen, htarget, hset]
  exact ⟨rfl, opened, hlists.fill hm _⟩

/-- A call on a list slot is accepted and fills the slot with its gift, or it changes nothing: it
reads, or it fails. -/
theorem Lists.children (h : n.Lists place key items?) (expected : Expected) (v : Argument) :
    let o := (Accessor.children place key expected).run n v
    (o.answer = .ok .self ∧ v.isNull = false ∧
        (v.IsOther → o.state.Lists place key (some (v.gift.fill items?)))) ∨
      (o.answer ≠ .ok .self ∧ o.state = n ∧
        (v.isNull = true ∨ ∃ fault, o.answer = .error fault)) := by
  have hrefused {o : Outcome Node} {fault : Fault} (ho : o.answer = .error fault) :
      o.answer ≠ .ok .self := by
    rw [ho]
    exact fun heq => by cases heq
  simp only [Accessor.run]
  split
  · next hnull =>
    refine .inr ⟨?_, n.readOption_state place key, .inl hnull⟩
    simp only [Accessor.read, readOption, readPart, Accessor.place, Accessor.key]
    (repeat' split) <;> exact fun heq => by cases heq
  · next hgiven =>
    rw [Bool.not_eq_true] at hgiven
    simp only [Accessor.write]
    split
    · next items hitems =>
      split
      · next hall =>
        obtain ⟨hanswer, hlists⟩ := h.writeOption (items.map (·.snapshot n))
        refine .inl ⟨hanswer, hgiven, fun hv => ?_⟩
        have hsame := Argument.map_snapshot_eq_fragment hall (hv.items items hitems) n
        simp only [Argument.gift, hitems, Gift.fill, ← hsame]
        exact hlists
      · exact .inr ⟨hrefused rfl, rfl, .inr ⟨_, rfl⟩⟩
    · next hitems =>
      split
      · next hsatisfies =>
        obtain ⟨hanswer, opened, hlists⟩ := h.appendItem (v.snapshot ·)
        refine .inl ⟨hanswer, hgiven, fun hv => ?_⟩
        have hsame := Argument.snapshot_eq_fragment hsatisfies hv.self opened
        simp only [Argument.gift, hitems, Gift.fill, ← hsame]
        exact hlists
      · exact .inr ⟨hrefused rfl, rfl, .inr ⟨_, rfl⟩⟩

/-- A call on a node fills a list slot if it is accepted by one of the methods for it, and else
leaves it as it is. -/
theorem Lists.call (h : n.Lists place key items?) (hslot : (place, key) ∈ n.kind.listSlots)
    (method : String) (args : Arguments) :
    let o := n.call method args
    (n.kind.fills place key method = true → o.answer = .ok .self → args.first.IsOther →
        o.state.Lists place key (some (args.first.gift.fill items?))) ∧
      (n.kind.fills place key method = false ∨ o.answer ≠ .ok .self →
        o.state.Lists place key items?) := by
  unfold Kind.fills Node.call
  cases hop : Entries.get? n.kind.methods method with
  | none => exact ⟨fun hfills => absurd hfills (by simp), fun _ => h⟩
  | some op =>
    simp only [Option.any_some, decide_eq_true_eq, decide_eq_false_iff_not]
    by_cases hfills : op.listSlot? = some (place, key)
    · obtain ⟨expected, rfl⟩ := Operation.exists_of_listSlot? hfills
      have hrun := h.children expected (args.first)
      simp only [Operation.run]
      rcases hrun with ⟨hanswer, -, hlists⟩ | ⟨hanswer, hstate, -⟩
      · refine ⟨fun _ _ hv => hlists hv, ?_⟩
        rintro (hne | hne)
        · exact absurd hfills hne
        · exact absurd hanswer hne
      · refine ⟨fun _ hself => absurd hself hanswer, fun _ => ?_⟩
        rw [hstate]
        exact h
    · have hmethod := n.kind.spares_methods _ hslot _ (Entries.mem_of_get? hop)
      have hspares := hmethod.resolve_left hfills
      exact ⟨fun hf => absurd hf hfills, fun _ => Operation.run_lists h hspares args⟩

end Node

/-! ## Construction -/

/-- What a node of a kind is given for its list slot when it is built. -/
def Kind.firstGifts (k : Kind) (args : Arguments) : List Gift :=
  if k.startsEmpty && !args.first.isNull then [args.first.gift] else []

/-- The items of a list slot after some gifts. -/
def Gift.fillAll (start : Option (List Json)) (gifts : List Gift) : Option (List Json) :=
  gifts.foldl (fun before gift => some (gift.fill before)) start

/-- The items of the list slot of a new node of a kind. -/
def Kind.listStart (k : Kind) : Option (List Json) := if k.startsEmpty then some [] else none

namespace Kind

variable {place : Place} {key : String}

/-- All list slots there are. -/
theorem listSlots_eq (k : Kind) : k.listSlots =
    match k with
    | query .bool | filter .bool => [(.body, "must"), (.body, "must_not"), (.body, "should")]
    | query .disMax => [(.body, "queries"), (.body, "queries")]
    | query .functionScore => [(.body, "functions"), (.body, "functions")]
    | query .spanNear | query .spanOr => [(.body, "clauses"), (.body, "clauses")]
    | filter .and | filter .or => [(.body, "filters"), (.body, "filters")]
    | suggester .phrase => [(.inner, "direct_generator")]
    | _ => [] := by
  cases k with
  | query k => cases k <;> rfl
  | filter k => cases k <;> rfl
  | score k => cases k <;> rfl
  | aggregation k => cases k <;> rfl
  | facet k => cases k <;> rfl
  | suggester k => cases k <;> rfl
  | _ => rfl

/-- A list slot that is there from the start is filled with the first argument. -/
theorem startsEmpty_lists {k : Kind} (hk : k.listInner = "") (hstarts : k.startsEmpty = true)
    {slot : String} {expected : Expected} {args : Arguments} {answer : Answer} :
    let o := (Accessor.children .body key expected).run (.envelope k slot [(key, .arr [])])
      args.first
    o.answer = .ok answer → args.first.IsOther →
      o.state.Lists .body key (Gift.fillAll k.listStart (k.firstGifts args)) := by
  intro o hok hother
  have hn : (Node.envelope k slot [(key, .arr [])]).Lists .body key (some []) :=
    ⟨hk.symm, [(key, .arr [])], rfl, by simp [Entries.get?]⟩
  simp only [listStart, firstGifts, hstarts, if_true, Bool.true_and]
  rcases hn.children expected args.first with
    ⟨-, hgiven, hlists⟩ | ⟨-, hstate, hnull | ⟨fault, hfault⟩⟩
  · simp only [hgiven]
    exact hlists hother
  · simp only [hnull]
    exact hstate.symm ▸ hn
  · cases hok.symm.trans hfault

/-- A node is built with the items that its construction is given. -/
theorem build_lists {k : Kind} (h : (place, key) ∈ k.listSlots) {args : Arguments}
    {answer : Answer} (hok : (k.build args).answer = .ok answer) (hother : args.first.IsOther) :
    (k.build args).state.Lists place key (Gift.fillAll k.listStart (k.firstGifts args)) := by
  have hempty {k : Kind} {slot : String} (hk : k.listInner = "") :
      (Node.envelope k slot []).Lists .body key none := ⟨hk.symm, [], rfl, rfl⟩
  rw [listSlots_eq] at h
  split at h <;>
    simp only [List.mem_cons, Prod.mk.injEq, List.not_mem_nil, or_false, or_self] at h
  case h_1 | h_2 =>
    obtain rfl : place = .body := by
      rcases h with h | h | h <;> exact h.1
    exact hempty rfl
  case h_3 | h_4 =>
    obtain ⟨rfl, rfl⟩ := h
    exact hempty rfl
  case h_5 | h_6 | h_7 | h_8 =>
    obtain ⟨rfl, rfl⟩ := h
    exact startsEmpty_lists rfl rfl hok hother
  case h_9 =>
    obtain ⟨rfl, rfl⟩ := h
    exact ⟨rfl, [], ⟨_, rfl, by simp [Entries.get?]; rfl⟩, rfl⟩

end Kind

end SearchBuilder
