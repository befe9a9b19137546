import SearchBuilder.Document.Argument
import SearchBuilder.Proofs.Json.Entries

/-!
# Arguments of calls

What a method takes from the arguments of a call is one of them, or null if it is missing
(`Arguments.get_cases` and `Arguments.first_cases`). So what holds of null and of all arguments
holds of what any method takes.
-/

namespace SearchBuilder

theorem Argument.eq_null {v : Argument} (h : v.isNull = true) : v = .null := by
  unfold isNull at h
  split at h
  · rfl
  · cases h

theorem Argument.isNull_plain {value : Json} (h : value ≠ .null) :
    (Argument.plain value).isNull = false := by
  cases value with
  | null => exact absurd rfl h
  | _ => rfl

namespace Arguments

/-- An argument that is taken is one of those that are given, or null. -/
def Takes (args : Arguments) (v : Argument) : Prop :=
  v = .null ∨ v ∈ args.positional ∨ ∃ entry ∈ args.named, v = entry.2

/-- What is taken by position or name is given, or null. -/
theorem get_cases (args : Arguments) (index : Nat) (name : String) :
    args.Takes (args.get index name) := by
  unfold get get?
  cases hpositional : args.positional[index]? with
  | some a => exact .inr (.inl (List.mem_of_getElem? hpositional))
  | none =>
    cases hnamed : Entries.get? args.named name with
    | some a => exact .inr (.inr ⟨_, Entries.mem_of_get? hnamed, rfl⟩)
    | none => exact .inl rfl

theorem first_cases (args : Arguments) (others : List String) : args.Takes (args.first others) := by
  unfold first
  cases hfirst : args.first? others with
  | none => exact .inl rfl
  | some a =>
    refine .inr ?_
    unfold first? at hfirst
    cases hhead : args.positional.head? with
    | some b =>
      rw [hhead] at hfirst
      cases hfirst
      exact .inl (List.mem_of_head? hhead)
    | none =>
      rw [hhead] at hfirst
      obtain ⟨entry, hentry, rfl⟩ := Option.map_eq_some_iff.1 hfirst
      exact .inr ⟨entry, List.mem_of_find?_eq_some hentry, rfl⟩

/-- What holds of null and of all that is given holds of what is taken. -/
theorem Takes.meets {args : Arguments} {v : Argument} (h : args.Takes v) {P : Argument → Prop}
    (hnull : P .null) (hpositional : ∀ a ∈ args.positional, P a)
    (hnamed : ∀ entry ∈ args.named, P entry.2) : P v := by
  rcases h with rfl | hmem | ⟨entry, hmem, rfl⟩
  · exact hnull
  · exact hpositional v hmem
  · exact hnamed entry hmem

end Arguments

/-! ## Nodes in arguments -/

/-- All nodes of an argument are seen as `View` says. -/
inductive Argument.Shows (View : Child → Prop) : Argument → Prop
  | plain (value : Json) : Shows View (.plain value)
  | list {items : List Argument} : (∀ item ∈ items, Shows View item) → Shows View (.list items)
  | node {child : Child} : View child → Shows View (.node child)
  | receiver : Shows View .receiver
  | other : Shows View .other

theorem Argument.items_show {v : Argument} {View : Child → Prop} (hv : v.Shows View)
    {items : List Argument} (h : v.items? = some items) : ∀ item ∈ items, item.Shows View := by
  cases hv with
  | list hitems =>
    cases h
    exact hitems
  | plain value =>
    cases value with
    | arr values =>
      cases h
      intro item hitem
      obtain ⟨value, -, rfl⟩ := List.mem_map.1 hitem
      exact .plain value
    | _ => cases h
  | _ => cases h

mutual

/-- If every node is seen as it should be, every argument is. -/
theorem Argument.shows_of_forall {View : Child → Prop} (h : ∀ child, View child) :
    ∀ a : Argument, a.Shows View
  | .plain value => .plain value
  | .list items => .list (Argument.items_show_of_forall h items)
  | .node child => .node (h child)
  | .receiver => .receiver
  | .other => .other

theorem Argument.items_show_of_forall {View : Child → Prop} (h : ∀ child, View child) :
    ∀ items : List Argument, ∀ item ∈ items, item.Shows View
  | [] => fun _ hitem => absurd hitem List.not_mem_nil
  | first :: rest => List.forall_mem_cons.2
      ⟨Argument.shows_of_forall h first, Argument.items_show_of_forall h rest⟩

end

/-- What every node of one view also has, arguments show as well. -/
theorem Argument.Shows.mono {View View' : Child → Prop} (h : ∀ child, View child → View' child)
    {a : Argument} (ha : a.Shows View) : a.Shows View' := by
  induction ha with
  | plain value => exact .plain value
  | list _ ih => exact .list ih
  | node hchild => exact .node (h _ hchild)
  | receiver => exact .receiver
  | other => exact .other

/-- All nodes of the arguments of a call are seen as `View` says. -/
structure Arguments.Show (View : Child → Prop) (args : Arguments) : Prop where
  positional : ∀ a ∈ args.positional, a.Shows View
  named : ∀ entry ∈ args.named, entry.2.Shows View

namespace Arguments.Show

variable {View : Child → Prop} {args : Arguments}

theorem mono {View' : Child → Prop} (hview : ∀ child, View child → View' child)
    (h : args.Show View) : args.Show View' :=
  ⟨fun a ha => (h.positional a ha).mono hview,
    fun entry hentry => (h.named entry hentry).mono hview⟩

theorem get (h : args.Show View) (index : Nat) (name : String) :
    (args.get index name).Shows View :=
  (args.get_cases index name).meets (.plain .null) h.positional h.named

theorem first (h : args.Show View) (others : List String) : (args.first others).Shows View :=
  (args.first_cases others).meets (.plain .null) h.positional h.named

end Arguments.Show

/-! ## Arguments without the receiver -/

/-- The receiver is nowhere in an argument. -/
inductive Argument.Foreign : Argument → Prop
  | plain (value : Json) : Foreign (.plain value)
  | list {items : List Argument} : (∀ item ∈ items, Foreign item) → Foreign (.list items)
  | node (child : Child) : Foreign (.node child)
  | other : Foreign .other

namespace Argument

variable {v : Argument}

theorem listToJson_eq_map (n : Node) (items : List Argument) :
    listToJson n items = items.map (·.toJson n) := by
  induction items with
  | nil => rfl
  | cons item rest ih => rw [listToJson, ih, List.map_cons]

/-- A list is stored as the list of its items. -/
theorem toJson_of_items {items : List Argument}
    (h : v.items? = some items) (n : Node) : v.toJson n = .arr (items.map (·.toJson n)) := by
  cases v with
  | list =>
    cases h
    rw [toJson, listToJson_eq_map]
  | plain value =>
    cases value with
    | arr values =>
      cases h
      rw [toJson, List.map_map]
      exact congrArg Json.arr (List.map_id _).symm
    | _ => cases h
  | _ => cases h

/-- What is stored for a foreign argument does not depend on the receiver. -/
theorem Foreign.toJson_congr (h : v.Foreign) (n m : Node) : v.toJson n = v.toJson m := by
  induction h with
  | list _ ih =>
    rw [toJson, toJson, listToJson_eq_map, listToJson_eq_map]
    exact congrArg Json.arr (List.map_congr_left ih)
  | _ => rfl

end Argument

/-- Arguments with the receiver in none of them. -/
def Arguments.Foreign (args : Arguments) : Prop :=
  (∀ a ∈ args.positional, a.Foreign) ∧ ∀ entry ∈ args.named, entry.2.Foreign

namespace Arguments.Foreign

variable {args : Arguments}

theorem get (h : args.Foreign) (index : Nat) (name : String) : (args.get index name).Foreign :=
  (args.get_cases index name).meets (.plain .null) h.1 h.2

theorem first (h : args.Foreign) (others : List String) : (args.first others).Foreign :=
  (args.first_cases others).meets (.plain .null) h.1 h.2

end Arguments.Foreign

end SearchBuilder
