import SearchBuilder.Proofs.Document.Enumerations

/-!
# The catalog and enumerated options

What is built for a concrete kind is canonical (`Kind.build_orderly`), and calls keep it so
(`Node.Orderly.call`), provided that no field has the name of an option. The tables of the catalog
say where the options of a kind are; everything about what methods do is in the theorems about
operations.
-/

namespace SearchBuilder

/-! ## Calls -/

theorem Kind.enumerations_of_isUnframed {k : Kind} (h : k.isUnframed = true)
    (hhighlight : k ≠ .highlight) : k.enumerations = [] := by
  have htable : ∀ k ∈ [suggester .completion, geoPoint, highlight, request],
      k ≠ .highlight → k.enumerations = [] := by decide +kernel
  exact htable k (List.contains_iff_mem.1 h) hhighlight

/-- A call that gives no field the name of an option keeps a node canonical. -/
theorem Node.Orderly.call {n : Node} (h : n.Orderly) {method : String} {args : Arguments}
    (hname : n.kind.SparesOptions method args) : (n.call method args).state.Orderly := by
  obtain ⟨hframed, hcanonical⟩ := h
  cases hframed with
  | clear hk hfield hclear => exact hclear.call_orderly hcanonical hk hfield method args
  | tidy hk htidy hfree => exact htidy.call_orderly hcanonical hk hfree hname
  | clause hkind hfragment hfree => exact hcanonical.call_clause hkind hfragment hfree hname
  | unframed hk =>
    have hkind := n.call_kind method args
    refine ⟨.unframed (hkind ▸ hk), ?_⟩
    by_cases hhighlight : n.kind = .highlight
    · unfold Node.call
      split
      · next hop =>
        rw [hhighlight] at hop
        exact hcanonical.run_highlight hhighlight
          (Kind.highlights_methods _ (Entries.mem_of_get? hop)) args
      · exact hcanonical
    · exact Node.canonical_of_nil
        ((congrArg Kind.enumerations hkind).trans (Kind.enumerations_of_isUnframed hk hhighlight))

/-! ## Construction -/

namespace Node

variable {n : Node} {k : Kind} {body : Entries Json} {slot : String}

/-- A node whose enumerated options are not set. -/
theorem canonical_of_unset (h : ∀ item ∈ n.kind.enumerations, ∃ members,
    n.valueAt item.1.place = .obj members ∧ item.1.key "" ∉ members.map (·.1)) : n.Canonical := by
  intro s e hitem
  obtain ⟨members, hmembers, hkey⟩ := h _ hitem
  rw [Kind.eq_option_of_mem hitem, look_of_valueAt hmembers, Entries.get?_eq_none_iff.2 hkey]
  exact .empty

theorem empty_canonical (htable : ∀ item ∈ k.enumerations, item.1.place = .root) :
    Canonical { kind := k, fragment := .empty } := by
  refine canonical_of_unset fun item hitem => ⟨[], ?_, List.not_mem_nil⟩
  rw [htable _ hitem]
  rfl

theorem envelope_canonical (keys : List String) (hkeys : body.map (·.1) = keys)
    (htable : ∀ item ∈ k.enumerations, item.1.place = .body ∧ item.1.key "" ∉ keys) :
    (envelope k slot body).Canonical := by
  refine canonical_of_unset fun item hitem => ?_
  obtain ⟨hplace, hkey⟩ := htable _ hitem
  rw [hplace]
  exact ⟨body, HasMembers.valueAt_body rfl, hkeys ▸ hkey⟩

theorem nestedEnvelope_canonical {inner : String} (htable : ∀ item ∈ k.enumerations,
    item.1.place = .body ∧ item.1.key "" ≠ inner ∨ item.1.place = .inner) :
    (nestedEnvelope k slot inner []).Canonical := by
  refine canonical_of_unset fun item hitem => ?_
  rcases htable _ hitem with ⟨hplace, hkey⟩ | hplace
  · rw [hplace]
    exact ⟨_, HasMembers.valueAt_body rfl, fun hmem => hkey (List.mem_singleton.1 hmem)⟩
  · rw [hplace]
    exact ⟨[], HasMembers.valueAt_inner rfl (if_pos rfl), List.not_mem_nil⟩

/-- An operation that a construction runs. -/
theorem built_run (hk : k.isIndependent = true) (hfield : k ∉ Kind.withField) (method : String)
    {op : Operation} (hop : Entries.get? k.methods method = some op)
    (hstores : op.spots?.isSome = true) {args : Arguments}
    (h : n.kind = k ∧ n.Clear ∧ n.Canonical) :
    (op.run n args).state.kind = k ∧ (op.run n args).state.Clear ∧
      (op.run n args).state.Canonical := by
  obtain ⟨rfl, hclear, hcanonical⟩ := h
  refine ⟨op.run_kind n args, hclear.run hstores args, ?_⟩
  rcases Kind.method_spots hk hfield hop with ⟨spots, hspots, hclears⟩ | hlook
  · exact hcanonical.run (enumeratesSpots_of_isIndependent hk) hclear hop hspots hclears args
  · cases op with
    | inspect => cases hstores
    | _ => cases hlook

/-- An option of the fragment itself that is not enumerated. -/
theorem Canonical.writeRoot (h : n.Canonical) {key : String}
    (hother : ∀ item ∈ n.kind.enumerations, item.1.place = .root ∧ item.1.key "" ≠ key)
    (value : Json) : (n.writeOption .root key value).state.Canonical := by
  intro s e hitem
  rw [(n.writeOption_keeps .root key value).kind] at hitem
  obtain ⟨hplace, hkey⟩ := hother _ hitem
  have hsame := h s e hitem
  have hwrite := n.writeOption_eq (.option .root key) value
  change n.writeOption .root key value = _ at hwrite
  rw [hwrite]
  split
  · exact hsame
  · have heq := Kind.eq_option_of_mem hitem
    rw [hplace] at heq
    have hapart : (n.spotPath (.option .root key)).Apart (n.spotPath s) := by
      rw [heq]
      exact Path.apart_of_ne [] (Ne.symm hkey)
    exact (look_put_of_apart hapart value).symm ▸ hsame

end Node

namespace Kind

variable {k : Kind} {args : Arguments}

theorem build_field_canonical (hk : k ∈ withField) (hname : k.fieldName args ∉ k.optionKeys) :
    (k.build args).state.Canonical := by
  have htable : ∀ k ∈ withField, ∀ item ∈ k.enumerations,
      item.1.place = .body ∧ item.1.key "" ∈ k.optionKeys ∨
        k = .query .text ∧ item.1.place = .inner ∧ item.1.key "" ≠ "query" := by
    decide +kernel
  rw [build_field hk]
  refine Node.canonical_of_unset fun item hitem => ?_
  rcases htable k hk _ hitem with ⟨hplace, hkey⟩ | ⟨rfl, hplace, hkey⟩
  · rw [hplace]
    refine ⟨_, Node.HasMembers.valueAt_body rfl, fun hmem => hname ?_⟩
    obtain ⟨entry, hentry, heq⟩ := List.mem_map.1 hmem
    obtain ⟨_, -, rfl⟩ := List.mem_map.1 hentry
    change k.fieldName args = _ at heq
    exact heq.symm ▸ hkey
  · rw [hplace]
    exact ⟨[("query", _)], Node.HasMembers.valueAt_inner rfl (if_pos rfl),
      fun hmem => hkey (List.mem_singleton.1 hmem)⟩

theorem build_canonical (hk : k.isConcrete = true)
    (hname : k ∈ withField → k.fieldName args ∉ k.optionKeys) :
    (k.build args).state.Canonical := by
  by_cases hfield : k ∈ withField
  · exact build_field_canonical hfield (hname hfield)
  have hkind := k.build_kind args
  have hnil (hnone : k.enumerations = []) : (k.build args).state.Canonical :=
    Node.canonical_of_nil ((congrArg enumerations hkind).trans hnone)
  cases k with
  | query k =>
    cases k with
    | multiField =>
      simp only [build, QueryKind.build]
      split
      · exact Node.envelope_canonical ["query", "fields"] rfl (by decide +kernel)
      · exact Node.envelope_canonical [] rfl (by decide +kernel)
    | queryString => exact Node.envelope_canonical ["query"] rfl (by decide +kernel)
    | nested => exact Node.envelope_canonical ["path"] rfl (by decide +kernel)
    | functionScore => exact Node.envelope_canonical [] rfl (by decide +kernel)
    | text | terms => exact absurd (by decide) hfield
    | _ => exact hnil (by decide +kernel)
  | filter k =>
    cases k with
    | terms | geoDistance | geoBox => exact absurd (by decide) hfield
    | _ => exact hnil (by decide +kernel)
  | score k =>
    cases k with
    | fieldValue => exact Node.envelope_canonical ["field"] rfl (by decide +kernel)
    | decay => exact absurd (by decide) hfield
    | _ => exact hnil (by decide +kernel)
  | aggregation k =>
    cases k with
    | terms | histogram => exact Node.nestedEnvelope_canonical (by decide +kernel)
    | _ => exact hnil (by decide +kernel)
  | facet k =>
    cases k with
    | terms | statistical | histogram => exact Node.nestedEnvelope_canonical (by decide +kernel)
    | generic | filter | query =>
      exact Node.envelope_canonical [] rfl (by decide +kernel)
  | suggester k =>
    cases k with
    | term => exact Node.nestedEnvelope_canonical (by decide +kernel)
    | _ => exact hnil (by decide +kernel)
  | generator => exact Node.empty_canonical (by decide +kernel)
  | shape =>
    have hempty : Node.Canonical { kind := .shape, fragment := .empty } :=
      Node.empty_canonical (by decide +kernel)
    refine (Outcome.andThen_keeps (P := fun n : Node => n.kind = .shape ∧ n.Clear ∧ n.Canonical)
      (Node.built_run rfl hfield "type" rfl rfl ⟨rfl, ⟨by decide, by decide⟩, hempty⟩)
      fun n hn => ⟨?_, ?_, ?_⟩).2.2
    · exact (n.writeOption_keeps _ _ _).kind.trans hn.1
    · exact hn.2.1.writeOption _ _ _
    · exact hn.2.2.writeRoot (hn.1 ▸ by decide +kernel) _
  | highlight =>
    have hfields : (Operation.highlight .fields).SparesEnumerations := fun _ _ => rfl
    exact (Node.empty_canonical (by decide +kernel)).run_highlight rfl hfields _
  | sort => exact absurd (by decide) hfield
  | rescore =>
    have hempty : (Node.envelope .rescore "query" []).Canonical :=
      Node.envelope_canonical [] rfl (by decide +kernel)
    exact (Outcome.andThen_keeps (P := fun n : Node => n.kind = .rescore ∧ n.Clear ∧ n.Canonical)
      (Node.built_run rfl hfield "window_size" rfl rfl
        ⟨rfl, ⟨by decide, by decide⟩, hempty⟩)
      fun n hn => Node.built_run rfl hfield "rescore_query" rfl rfl hn).2.2
  | _ => exact hnil (by decide +kernel)

theorem isUnframed_of_isConcrete (hk : k.isConcrete = true) (hindependent : k.isIndependent ≠ true)
    (hsort : k ≠ .sort) : k.isUnframed = true := by
  unfold isIndependent at hindependent
  rw [hk, Bool.true_and] at hindependent
  split at hindependent
  · rfl
  · rfl
  · rfl
  · exact absurd rfl hsort
  · rfl
  · exact absurd rfl hindependent

/-- A new node is canonical if its field does not have the name of an option. -/
theorem build_orderly (hk : k.isConcrete = true)
    (hname : k ∈ withField → k.fieldName args ∉ k.optionKeys) :
    (k.build args).state.Orderly := by
  refine ⟨?_, build_canonical hk hname⟩
  have hkind := k.build_kind args
  by_cases hsort : k = .sort
  · subst hsort
    exact .clause rfl rfl (hname (by decide))
  by_cases hindependent : k.isIndependent = true
  · by_cases hfield : k ∈ withField
    · rw [build_field hfield]
      exact .tidy hindependent (Node.started_tidy hfield (fun hkind => absurd hkind hsort)
        (isSome_fieldContent hfield args)) (hname hfield)
    · exact .clear (hkind.symm ▸ hindependent) (hkind.symm ▸ hfield)
        (build_clear hindependent hfield args)
  · exact .unframed (hkind.symm ▸ isUnframed_of_isConcrete hk hindependent hsort)

end Kind

end SearchBuilder
