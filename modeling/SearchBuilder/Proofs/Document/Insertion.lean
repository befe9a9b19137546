import SearchBuilder.Proofs.Document.Lists
import SearchBuilder.Proofs.Document.Merging

/-!
# What an insertion stores

A node that is put into a list or a section of another is stored as the fragment that it has once
the list or section is there. For another node that is the fragment it had before the call. The
receiver itself has the list or section begun by then, so what is stored of it is what it was if and
only if it held something there already (`Argument.snapshot_opened_iff`).

Sections that are there are objects, whatever is called (`Node.HasSection.call`).
-/

namespace SearchBuilder

/-! ## Puts below a path -/

/-- What stands at the end of a path stays absent or an object when a member of it is set. -/
theorem Json.look_put_below {j : Json} {p : Path} {members? : Option (Entries Json)}
    (h : j.look p = some (members?.map .obj)) (key : String) (value : Json) :
    ∃ members?' : Option (Entries Json),
      (j.put (p ++ [key]) value).look p = some (members?'.map .obj) := by
  induction p generalizing j with
  | nil =>
    unfold look at h
    cases j <;> cases h
  | cons first rest ih =>
    cases j with
    | obj outer =>
      rw [List.cons_append]
      cases hfirst : Entries.get? outer first with
      | none =>
        rw [put_cons_of_none (by simp) hfirst]
        exact ⟨members?, h⟩
      | some inside =>
        rw [put_cons_of_some (by simp) hfirst]
        by_cases hrest : rest = []
        · subst hrest
          rw [look_one, hfirst, Option.some.injEq] at h
          obtain ⟨members, rfl, hinside⟩ := Option.map_eq_some_iff.1 h.symm
          rw [look_one, Entries.get?_set_self, ← hinside]
          exact ⟨some (Entries.set members key value), rfl⟩
        · rw [look_cons _ _ hrest, hfirst] at h
          rw [look_cons _ _ hrest, Entries.get?_set_self]
          exact ih h
    | _ => cases h

/-! ## Stored arguments -/

namespace Argument

variable {v : Argument} {n : Node} {s : Spot}

theorem eq_node_of_satisfies {expected : Expected} (h : v.satisfies n expected = true) :
    v = .receiver ∨ ∃ child, v = .node child := by
  cases v with
  | receiver => exact .inl rfl
  | node child => exact .inr ⟨child, rfl⟩
  | _ => cases h

/-- The receiver is another node once something is begun in it. -/
theorem snapshot_opened_iff (hv : v = .receiver ∨ ∃ child, v = .node child) {held : Option Json}
    (hlook : n.look s = some held) (start : Json) :
    v.snapshot (n.opened s start) = v.snapshot n ↔ (v = .receiver → n.look s ≠ some none) := by
  rcases hv with rfl | ⟨child, rfl⟩
  · cases held with
    | none =>
      have hopened := Node.opened_of_none hlook start
      refine ⟨fun hsame => absurd ?_ (Option.some_ne_none start), fun hne => absurd hlook (hne rfl)⟩
      have hput : n.put s start = n := by
        rw [← hopened]
        have hfragment : (n.opened s start).fragment = n.fragment := hsame
        rw [hopened] at hfragment ⊢
        exact congrArg (fun fragment => { n with fragment }) hfragment
      have hself := Node.look_put_self hlook start
      rw [hput, hlook] at hself
      exact (Option.some.inj hself).symm
    | some value =>
      rw [Node.opened_of_some hlook, hlook]
      exact ⟨fun _ _ => nofun, fun _ => rfl⟩
  · exact ⟨fun _ => nofun, fun _ => rfl⟩

/-- What is stored of an argument that is put into a list or a section of a node. -/
structure IsStored (v : Argument) (n : Node) (s : Spot) (start stored : Json) : Prop where
  eq : stored = v.snapshot (n.opened s start)
  /-- It is what the argument was before, unless the node begins the list or section with itself. -/
  same_iff : stored = v.snapshot n ↔ (v = .receiver → n.look s ≠ some none)

theorem isStored (hv : v = .receiver ∨ ∃ child, v = .node child) {held : Option Json}
    (hlook : n.look s = some held) (start : Json) :
    v.IsStored n s start (v.snapshot (n.opened s start)) :=
  ⟨rfl, snapshot_opened_iff hv hlook start⟩

end Argument

namespace Node

variable {n : Node} {key : String}

/-! ## Lists -/

theorem appendItem_accepted {s : Spot} {item : Node → Json}
    (h : (n.appendItem s.place (s.key n.inner) item).answer = .ok .self) :
    ∃ items? : Option (List Json), n.look s = some (items?.map .arr) ∧
      (n.appendItem s.place (s.key n.inner) item).state.look s =
        some (some (.arr (items?.getD [] ++ [item (n.opened s (.arr []))]))) := by
  rw [appendItem_eq] at h ⊢
  cases hlook : n.look s with
  | none =>
    rw [hlook] at h
    cases h
  | some held =>
    have hopened := look_opened hlook (.arr [])
    rw [hlook] at h
    cases held with
    | none => exact ⟨none, rfl, look_put_self hopened _⟩
    | some value =>
      cases value with
      | arr items => exact ⟨some items, rfl, look_put_self hopened _⟩
      | _ => cases h

/-- An accepted call with a single node appends it to the list, which is begun if it is absent. -/
theorem call_appends {place : Place} {method : String} {args : Arguments}
    (hfills : n.kind.fills place key method = true) (hsingle : args.first.items? = none)
    (haccepted : (n.call method args).answer = .ok .self) :
    ∃ (items? : Option (List Json)) (stored : Json),
      n.look (.option place key) = some (items?.map .arr) ∧
        (n.call method args).state.look (.option place key) =
          some (some (.arr (items?.getD [] ++ [stored]))) ∧
        args.first.IsStored n (.option place key) (.arr []) stored := by
  obtain ⟨expected, hop⟩ := Kind.exists_of_fills hfills
  simp only [Node.call, hop, Operation.run, Accessor.run] at haccepted ⊢
  by_cases hnull : args.first.isNull = true
  · rw [if_pos hnull] at haccepted
    exact absurd haccepted (n.readOption_ne_self (.option place key))
  rw [if_neg hnull] at haccepted ⊢
  simp only [Accessor.write, hsingle] at haccepted ⊢
  by_cases hsatisfies : args.first.satisfies n expected = true
  · rw [if_pos hsatisfies] at haccepted ⊢
    obtain ⟨items?, hbefore, hafter⟩ := @appendItem_accepted n (.option place key) _ haccepted
    refine ⟨items?, _, hbefore, hafter, ?_⟩
    exact Argument.isStored (Argument.eq_node_of_satisfies hsatisfies) hbefore (.arr [])
  · rw [if_neg hsatisfies] at haccepted
    cases haccepted

/-! ## Sections -/

/-- A section of a node, if it is there, is an object. -/
def HasSection (n : Node) (key : String) : Prop :=
  ∃ members? : Option (Entries Json),
    n.look (.option n.kind.sectionPlace key) = some (members?.map .obj)

namespace HasSection

theorem put (h : n.HasSection key) {s : Spot} (hs : n.kind.spares key s = true) (value : Json) :
    (n.put s value).HasSection key := by
  obtain ⟨members?, hlook⟩ := h
  rcases spares_cases hs with hapart | ⟨-, other, hbelow⟩
  · exact ⟨members?, (look_put_of_apart hapart value).trans hlook⟩
  · -- The settings of the node are the section.
    obtain ⟨members?', hput⟩ := Json.look_put_below hlook other value
    refine ⟨members?', ?_⟩
    change (n.fragment.put (n.spotPath s) value).look _ = _
    rw [hbelow]
    exact hput

theorem puts (h : n.HasSection key) {writes : List (Spot × Json)}
    (hwrites : ∀ write ∈ writes, n.kind.spares key write.1 = true) :
    (n.puts writes).HasSection key := by
  induction writes generalizing n with
  | nil => exact h
  | cons write rest ih =>
    have hfirst := h.put (hwrites write List.mem_cons_self) write.2
    exact ih hfirst fun later hlater => hwrites later (List.mem_cons_of_mem _ hlater)

theorem mergeSection_cases (h : n.HasSection key) (addition : Node → Json) :
    let s : Spot := .option n.kind.sectionPlace key
    let result := n.mergeSection n.kind.sectionPlace key addition
    ∃ members? : Option (Entries Json), n.look s = some (members?.map .obj) ∧
      ((∃ additions, addition (n.opened s .empty) = .obj additions ∧
          result.state.look s = some (some (.obj (Entries.merge (members?.getD []) additions)))) ∨
        result.answer ≠ .ok .self ∧
          result.state.look s = some (some (.obj (members?.getD [])))) := by
  intro s result
  obtain ⟨members?, hlook⟩ := h
  have hopened : (n.opened s .empty).look s = some (some (.obj (members?.getD []))) := by
    rw [look_opened hlook .empty]
    cases members? <;> rfl
  have hresult : result = _ := n.mergeSection_eq s addition
  have hmembers : (members?.map Json.obj).getD .empty = .obj (members?.getD []) := by
    cases members? <;> rfl
  simp only [s, hlook, hmembers] at hresult
  refine ⟨members?, hlook, ?_⟩
  rw [hresult]
  cases hadditions : addition (n.opened s .empty) with
  | obj additions => exact .inl ⟨additions, rfl, look_put_self hopened _⟩
  | _ => exact .inr ⟨nofun, hopened⟩

theorem mergeSection (h : n.HasSection key) (addition : Node → Json) :
    (n.mergeSection n.kind.sectionPlace key addition).state.HasSection key := by
  unfold HasSection
  rw [(n.mergeSection_keeps n.kind.sectionPlace key addition).kind]
  obtain ⟨members?, -, ⟨additions, -, hafter⟩ | ⟨-, hafter⟩⟩ := h.mergeSection_cases addition
  · exact ⟨some (Entries.merge (members?.getD []) additions), hafter⟩
  · exact ⟨some (members?.getD []), hafter⟩

theorem run_section (h : n.HasSection key) (expected : Expected) (v : Argument) :
    ((Accessor.section n.kind.sectionPlace key expected).run n v).state.HasSection key := by
  unfold Accessor.run
  split
  · exact (n.readOption_state n.kind.sectionPlace key).symm ▸ h
  · simp only [Accessor.write]
    split
    · exact h.mergeSection _
    · exact h

/-- No call makes anything else of a section. -/
theorem call (h : n.HasSection key) (hkey : key ∈ n.kind.namedSections) (method : String)
    (args : Arguments) : (n.call method args).state.HasSection key := by
  unfold Node.call
  split
  · next op hop =>
    rcases Kind.methods_cases hkey _ (Entries.mem_of_get? hop) with
      ⟨-, rfl | ⟨hplace, rfl, rfl⟩ | ⟨c, -, -, rfl⟩⟩ | ⟨-, hspares⟩
    · exact (n.run_noSubAggregations args).1.symm ▸ h
    · simp only [Operation.run, BodyMethod.run]
      rw [← hplace]
      split
      · exact h.mergeSection _
      · exact h.run_section _ _
    · exact h.run_section _ _
    · obtain ⟨writes, hwrites, hstate⟩ := Operation.run_spares hspares args
      exact hstate ▸ h.puts hwrites
  · exact h

/-- An accepted call with an aggregation merges its fragment into the section, which is begun if it
is absent. -/
theorem call_merges (h : n.HasSection "aggs") (hkey : "aggs" ∈ n.kind.namedSections)
    {method : String} (hmethod : Entries.get? sectionMethods method = some "aggs")
    {args : Arguments} (haccepted : (n.call method args).answer = .ok .self) :
    let s : Spot := .option n.kind.sectionPlace "aggs"
    ∃ (members? : Option (Entries Json)) (additions : Entries Json),
      n.look s = some (members?.map .obj) ∧
        (n.call method args).state.look s =
          some (some (.obj (Entries.merge (members?.getD []) additions))) ∧
        args.first.IsStored n s .empty (.obj additions) := by
  intro s
  cases hop : Entries.get? n.kind.methods method with
  | none =>
    simp only [Node.call, hop] at haccepted
    cases haccepted
  | some op =>
    simp only [Node.call, hop] at haccepted ⊢
    rcases Kind.methods_cases hkey _ (Entries.mem_of_get? hop) with
      ⟨-, rfl | ⟨-, hsuggest, -⟩ | ⟨c, -, -, rfl⟩⟩ | ⟨hne, -⟩
    · exact absurd haccepted (n.run_noSubAggregations args).2
    · exact absurd hsuggest (by decide)
    · simp only [Operation.named, Operation.run, Accessor.run] at haccepted ⊢
      by_cases hnull : args.first.isNull = true
      · rw [if_pos hnull] at haccepted
        exact absurd haccepted (n.readOption_ne_self s)
      rw [if_neg hnull] at haccepted ⊢
      simp only [Accessor.write] at haccepted ⊢
      by_cases hsatisfies : args.first.satisfies n (.category c) = true
      · rw [if_pos hsatisfies] at haccepted ⊢
        obtain ⟨members?, hbefore, ⟨additions, hadditions, hafter⟩ | ⟨hrefused, -⟩⟩ :=
          h.mergeSection_cases (Argument.snapshot · args.first)
        · refine ⟨members?, additions, hbefore, hafter, ?_⟩
          rw [← hadditions]
          exact Argument.isStored (Argument.eq_node_of_satisfies hsatisfies) hbefore .empty
        · exact absurd haccepted hrefused
      · rw [if_neg hsatisfies] at haccepted
        cases haccepted
    · exact absurd hmethod hne

end HasSection

end Node

theorem Kind.build_hasSection {k : Kind} {key : String} (hkey : key ∈ k.namedSections)
    (args : Arguments) : (k.build args).state.HasSection key := by
  have henvelope {k : AggregationKind} {n : Node} (hkind : n.kind = .aggregation k)
      {body : Entries Json} (hfragment : n.fragment = .obj [(n.slot, .obj body)])
      (hbody : ∀ entry ∈ body, entry.2 = .obj []) : n.HasSection "aggs" := by
    have hlook := Node.look_envelope hfragment "aggs"
    unfold Node.HasSection
    rw [hkind]
    cases hget : Entries.get? body "aggs" with
    | none => exact ⟨none, hlook.trans (congrArg some hget)⟩
    | some value =>
      obtain rfl : value = .obj [] := hbody _ (Entries.mem_of_get? hget)
      exact ⟨some [], hlook.trans (congrArg some hget)⟩
  cases k with
  | request => exact ⟨none, rfl⟩
  | aggregation k =>
    obtain rfl := List.mem_singleton.1 hkey
    have hsettings (type : String) : ∀ entry ∈ [(type, Json.obj [])], entry.2 = .obj [] := by
      intro entry hentry
      rw [List.mem_singleton.1 hentry]
    cases k with
    | generic | filter => exact henvelope rfl rfl nofun
    | _ => exact henvelope rfl rfl (hsettings _)
  | _ => cases hkey

end SearchBuilder
