import SearchBuilder.Proofs.Document.Settings

/-!
# Renames leave no residue

A run of calls on a node about a field may rename the field and, for a decay function, choose other
curves in between. Such calls keep the settings of the node, and all other calls depend on the
settings only (`Node.Named.call_other`). So it is enough to know the last name and the last curve:
the run ends in the same document as one that has them from the start (`Node.moves_erased`).
-/

namespace SearchBuilder

/-! ## Values without the order of keys -/

/-- Values that are the same but for the order of keys, at any depth. -/
inductive Json.Same : Json → Json → Prop
  | refl (j : Json) : Same j j
  | obj {m m' : Entries Json} :
    (∀ key, Entries.get? m key = none ↔ Entries.get? m' key = none) →
    (∀ key value value', Entries.get? m key = some value → Entries.get? m' key = some value' →
      Same value value') →
    Same (.obj m) (.obj m')

/-- Members are the same if they are under one key and equal under all others. -/
theorem Json.Same.of_apartFrom {m m' : Entries Json} {key : String} {value value' : Json}
    (hvalue : Entries.get? m key = some value) (hvalue' : Entries.get? m' key = some value')
    (hsame : Json.Same value value') (h : Entries.apartFrom m key = Entries.apartFrom m' key) :
    Json.Same (.obj m) (.obj m') := by
  have hother {other : String} (hne : other ≠ key) :
      Entries.get? m other = Entries.get? m' other := by
    rw [← Entries.apartFrom_of_ne m hne, h, Entries.apartFrom_of_ne m' hne]
  refine .obj (fun other => ?_) fun other inside inside' hinside hinside' => ?_
  · by_cases hkey : other = key
    · subst hkey
      rw [hvalue, hvalue']
      exact iff_of_false (Option.some_ne_none _) (Option.some_ne_none _)
    · rw [hother hkey]
  · by_cases hkey : other = key
    · subst hkey
      cases hvalue.symm.trans hinside
      cases hvalue'.symm.trans hinside'
      exact hsame
    · rw [hother hkey, hinside'] at hinside
      cases hinside
      exact .refl _

/-- Tidy nodes with the same settings under the same names are the same. -/
theorem Node.Tidy.same {n m : Node} {members body members' body' : Entries Json}
    (h : n.Tidy members body) (h' : m.Tidy members' body') (hsettings : n.settings = m.settings)
    (hslot : n.slot = m.slot) (hinner : n.inner = m.inner) :
    Json.Same n.fragment m.fragment := by
  rw [h.settings_eq, h'.settings_eq, Settings.mk.injEq, ← hslot, ← hinner] at hsettings
  obtain ⟨hbeside, hoptions, hfield⟩ := hsettings
  rw [h.fragment, h'.fragment]
  refine .of_apartFrom h.slot (hslot ▸ h'.slot) ?_ hbeside
  cases hvalue : Entries.get? body n.inner with
  | none =>
    have hvalue' : Entries.get? body' n.inner = none := hfield ▸ hvalue
    rw [Entries.apartFrom_of_absent hvalue, Entries.apartFrom_of_absent hvalue'] at hoptions
    refine .obj (fun key => by rw [hoptions]) fun key value value' hkey hkey' => ?_
    rw [hoptions, hkey'] at hkey
    cases hkey
    exact .refl _
  | some value =>
    exact .of_apartFrom hvalue (hfield ▸ hvalue) (.refl value) hoptions

/-! ## Calls that move members -/

/-- Whether a call renames the field. -/
def isRename (call : String × Arguments) : Bool := call.1 = "field" && !call.2.first.isNull

namespace Kind

/-- Whether a call chooses a curve. -/
def isChoice (k : Kind) (call : String × Arguments) : Bool :=
  k = .score .decay && curves.contains call.1

/-- Whether a call moves members without a change to the settings. -/
def isMove (k : Kind) (call : String × Arguments) : Bool := isRename call || k.isChoice call

/-- The names that are no names of fields: those of options, and the keys of sort clauses that are
none of a field. -/
def reservedNames (k : Kind) : List String :=
  k.optionKeys ++ if k = .sort then [distanceKey, scriptKey] else []

end Kind

/-! ## Steps -/

namespace Node

/-- A tidy node whose field has a name that is free for fields. -/
structure Named (n : Node) : Prop where
  tidy : ∃ members body, n.Tidy members body
  free : n.inner ∉ n.kind.reservedNames

/-- Nodes of a kind with the same settings, which stand under a field's name or both do not. -/
structure Matches (n m : Node) : Prop where
  kind : n.kind = m.kind
  settings : n.settings = m.settings
  switched : n.switched? = m.switched?

theorem Matches.refl (n : Node) : n.Matches n := ⟨rfl, rfl, rfl⟩

theorem Matches.symm {n m : Node} (h : n.Matches m) : m.Matches n :=
  ⟨h.kind.symm, h.settings.symm, h.switched.symm⟩

theorem Matches.trans {n m p : Node} (h : n.Matches m) (h' : m.Matches p) : n.Matches p :=
  ⟨h.kind.trans h'.kind, h.settings.trans h'.settings, h.switched.trans h'.switched⟩

variable {n m : Node}

theorem Named.mem_withField (h : n.Named) : n.kind ∈ Kind.withField := by
  obtain ⟨members, body, htidy⟩ := h.tidy
  exact htidy.kind

theorem Named.notMem_optionKeys (h : n.Named) : n.inner ∉ n.kind.optionKeys :=
  fun hmem => h.free (List.mem_append_left _ hmem)

/-- Whether a clause has switched away from its field is told by its slot. -/
theorem switched?_congr (h : n.slot = m.slot) : n.switched? = m.switched? := by
  unfold switched?
  rw [h]

/-- Renaming keeps the settings. -/
theorem Named.call_rename (h : n.Named) {call : String × Arguments} (hcall : isRename call = true)
    (hname : call.2.first.name ∉ n.kind.reservedNames) :
    (n.call call.1 call.2).state.Named ∧ (n.call call.1 call.2).state.Matches n ∧
      (n.call call.1 call.2).state.inner = call.2.first.name ∧
      (n.kind ≠ .sort → (n.call call.1 call.2).state.slot = n.slot) := by
  obtain ⟨method, args⟩ := call
  obtain ⟨members, body, htidy⟩ := h.tidy
  have hinner := h.notMem_optionKeys
  have hoption : args.first.name ∉ n.kind.optionKeys :=
    fun hmem => hname (List.mem_append_left _ hmem)
  simp only [isRename, Bool.and_eq_true, decide_eq_true_eq, Bool.not_eq_true'] at hcall
  obtain ⟨rfl, hgiven⟩ := hcall
  have hkind := n.call_kind "field" args
  have htable : ∀ k ∈ Kind.withField,
      (Entries.get? k.methods "field" = some (.field .rename) ∧ k.keepsField = true ∨
        Entries.get? k.methods "field" = some (.field .renameIfSet) ∧ k = .filter .geoDistance) ∨
      Entries.get? k.methods "field" = some (.sort .field) ∧ k = .sort := by decide
  have hcall {op : Operation} (hop : Entries.get? n.kind.methods "field" = some op) :
      n.call "field" args = op.run n args := by
    unfold Node.call
    rw [hop]
  rcases htable _ h.mem_withField with hfield | ⟨hop, hsort⟩
  · obtain ⟨f, hop, hf⟩ : ∃ f, Entries.get? n.kind.methods "field" = some (.field f) ∧
        (f = .rename ∧ n.kind.keepsField = true ∨
          f = .renameIfSet ∧ n.kind = .filter .geoDistance) :=
      hfield.elim (fun hop => ⟨_, hop.1, .inl ⟨rfl, hop.2⟩⟩)
        fun hop => ⟨_, hop.1, .inr ⟨rfl, hop.2⟩⟩
    obtain ⟨members', body', htidy', hsettings, hinner', hslot⟩ := htidy.rename hf hgiven
    have hstate : (n.call "field" args).state = (f.run n args).state :=
      congrArg Outcome.state (hcall hop)
    rw [hstate] at hkind ⊢
    exact ⟨⟨⟨_, _, htidy'⟩, by rw [hinner', hkind]; exact hname⟩,
      ⟨hkind, hsettings hoption, switched?_congr hslot⟩, hinner', fun _ => hslot⟩
  · have hstate : (n.call "field" args).state = (n.renameClause args.first.name).state := by
      rw [hcall hop]
      simp only [Operation.run, SortMethod.run, hgiven, Bool.false_eq_true, if_false]
    have hfree : args.first.name ≠ distanceKey ∧ args.first.name ≠ scriptKey := by
      refine ⟨fun heq => hname ?_, fun heq => hname ?_⟩ <;>
        · rw [heq, hsort]
          decide
    obtain ⟨members', body', htidy', hsettings, hinner', hswitched⟩ :=
      htidy.renameClause hsort hinner hoption hfree
    rw [hstate] at hkind ⊢
    exact ⟨⟨⟨_, _, htidy'⟩, by rw [hinner', hkind]; exact hname⟩, ⟨hkind, hsettings, hswitched⟩,
      hinner', fun hne => absurd hsort hne⟩

theorem switched?_of_mem_curves (h : n.slot ∈ curves) : n.switched? = none := by
  have hcurves : ∀ curve ∈ curves, ¬ (curve = distanceKey ∨ curve = scriptKey) := by decide
  exact if_neg (hcurves _ h)

/-- Choosing a curve keeps the settings. -/
theorem Named.call_choice (h : n.Named) {call : String × Arguments}
    (hcall : n.kind.isChoice call = true) :
    (n.call call.1 call.2).state.Named ∧ (n.call call.1 call.2).state.Matches n ∧
      (n.call call.1 call.2).state.inner = n.inner ∧
      (n.call call.1 call.2).state.slot = call.1 := by
  obtain ⟨members, body, htidy⟩ := h.tidy
  simp only [Kind.isChoice, Bool.and_eq_true, decide_eq_true_eq, List.contains_iff_mem] at hcall
  obtain ⟨hdecay, hcurve⟩ := hcall
  have htable : ∀ curve ∈ curves, Entries.get? (Kind.score .decay).methods curve =
      some (.decay (.choose curve)) := by decide
  have hstate : n.call call.1 call.2 = (DecayMethod.choose call.1).run n := by
    unfold Node.call
    rw [hdecay, htable _ hcurve]
    rfl
  have hkind := n.call_kind call.1 call.2
  have hold : n.slot ∈ curves := by
    have hstands := htidy.stands
    rw [hdecay] at hstands
    exact hstands
  obtain ⟨htidy', hsettings, hslot, hinner⟩ := htidy.choose hdecay hcurve
  rw [hstate] at hkind ⊢
  refine ⟨⟨⟨_, _, htidy'⟩, by rw [hinner, hkind]; exact h.free⟩, ⟨hkind, hsettings, ?_⟩, hinner,
    hslot⟩
  rw [switched?_of_mem_curves hold]
  refine switched?_of_mem_curves ?_
  rw [hslot]
  exact hcurve

/-- Two nodes with the same settings and the same names of options look the same at their spots. -/
theorem Matches.look (h : n.Matches m) (hn : n.Named) (hm : m.Named) {s : Spot}
    (hs : n.kind.clears s = true) : n.look s = m.look s := by
  obtain ⟨members, body, htidy⟩ := hn.tidy
  obtain ⟨members', body', htidy'⟩ := hm.tidy
  rw [htidy.look_eq hn.notMem_optionKeys hs,
    htidy'.look_eq hm.notMem_optionKeys (h.kind ▸ hs), h.settings]

/-- The same puts at spots of options. -/
theorem Matches.puts (h : n.Matches m) (hn : n.Named) (hm : m.Named)
    {writes : List (Spot × Json)} (hwrites : ∀ write ∈ writes, n.kind.clears write.1 = true) :
    (n.puts writes).Named ∧ (n.puts writes).Matches (m.puts writes) := by
  obtain ⟨members, body, htidy⟩ := hn.tidy
  obtain ⟨members', body', htidy'⟩ := hm.tidy
  obtain ⟨_, _, htidyPut, hsettings⟩ := htidy.puts hwrites
  obtain ⟨_, _, -, hsettings'⟩ := htidy'.puts (h.kind ▸ hwrites)
  refine ⟨⟨⟨_, _, htidyPut⟩, ?_⟩, ?_, ?_, ?_⟩
  · rw [puts_inner, puts_kind]
    exact hn.free
  · rw [puts_kind, puts_kind, h.kind]
  · rw [hsettings hn.notMem_optionKeys, hsettings' hm.notMem_optionKeys, h.settings]
  · rw [switched?_congr (n.puts_slot writes), switched?_congr (m.puts_slot writes), h.switched]

/-- Two sort clauses that start anew under the same key. -/
theorem Matches.switchClause (h : n.Matches m) (hn : n.Named) (hm : m.Named)
    (hkind : n.kind = .sort) (value : Json) :
    ((n.switchClause distanceKey [(n.inner, value)]).state.Named ∧
        (n.switchClause distanceKey [(n.inner, value)]).state.Matches
          (m.switchClause distanceKey [(m.inner, value)]).state) ∧
      (n.switchClause scriptKey [("script", value)]).state.Named ∧
        (n.switchClause scriptKey [("script", value)]).state.Matches
          (m.switchClause scriptKey [("script", value)]).state := by
  have hkind' := h.kind ▸ hkind
  obtain ⟨_, _, htidy⟩ := hn.tidy
  obtain ⟨_, _, htidy'⟩ := hm.tidy
  have hscript : "script" ∈ n.kind.optionKeys := by
    rw [hkind]
    decide
  refine ⟨⟨⟨⟨_, _, htidy.switchClause hkind (.inl ⟨rfl, rfl⟩) value⟩, hn.free⟩, h.kind, ?_, rfl⟩,
    ⟨⟨_, _, htidy.switchClause hkind (.inr ⟨hscript, rfl⟩) value⟩, hn.free⟩, h.kind, ?_, rfl⟩
  · rw [htidy.settings_distance hkind, htidy'.settings_distance hkind']
  · rw [htidy.settings_script hkind hn.notMem_optionKeys,
      htidy'.settings_script hkind' hm.notMem_optionKeys]

/-- Nodes that match are sorted by scripts alike. -/
theorem Matches.slot_eq_iff (h : n.Matches m) : n.slot = scriptKey ↔ m.slot = scriptKey := by
  have hhalf {n m : Node} (h : n.switched? = m.switched?) (hn : n.slot = scriptKey) :
      m.slot = scriptKey := by
    have hswitched : n.switched? = some scriptKey := by
      unfold switched?
      rw [if_pos (.inr hn), hn]
    rw [h] at hswitched
    unfold switched? at hswitched
    split at hswitched
    · exact Option.some.inj hswitched
    · cases hswitched
  exact ⟨hhalf h.switched, hhalf h.switched.symm⟩

/-- A clause that is sorted by distance or by script keeps its field. -/
theorem Named.run_clause (hn : n.Named) (hm : m.Named) (h : n.Matches m) (hsort : n.kind = .sort)
    {c : SortMethod} (hc : c = .geoDistance ∨ c = .script) {args : Arguments}
    (hforeign : ∀ a ∈ (Operation.sort c).stored args, a.Foreign) :
    (c.run n args).state.Named ∧ (c.run n args).state.Matches (c.run m args).state ∧
      (c.run n args).state.inner = n.inner := by
  have hsort' := h.kind ▸ hsort
  rcases hc with rfl | rfl
  · have htaken : args.first.TakenAlike n m (.category .geoPoint) := by
      refine Argument.takenAlike_of_category h.kind ?_ _
      rw [hsort]
      decide
    simp only [SortMethod.run, ← htaken.satisfies]
    split
    · rw [readThrough_state, readThrough_state]
      exact ⟨hn, h, rfl⟩
    · split
      · next hpoint =>
        rw [← (htaken.copied hpoint).now]
        obtain ⟨⟨hnamed, hmatches⟩, -⟩ := h.switchClause hn hm hsort (args.first.snapshot n)
        exact ⟨hnamed, hmatches, rfl⟩
      · exact ⟨hn, h, rfl⟩
  · have hstored : args.first.toJson n = args.first.toJson m :=
      (hforeign args.first List.mem_cons_self).toJson_congr n m
    simp only [SortMethod.run, ← hstored]
    split
    · rw [readThrough_state, readThrough_state]
      exact ⟨hn, h, rfl⟩
    · by_cases hscript : n.slot = scriptKey
      · have hclears : n.kind.clears (.option .body "script") = true := by
          rw [hsort]
          decide
        obtain ⟨writes, hwrites, hstate, hstate'⟩ :=
          (writeOption_alike (s := .option .body "script") (h.look hn hm hclears)
            (rfl : args.first.toJson n = _)).writes
        rw [if_pos hscript, if_pos (h.slot_eq_iff.1 hscript)]
        obtain ⟨hnamed, hmatches⟩ := h.puts hn hm fun write hwrite => by
          rw [List.mem_singleton.1 (hwrites write hwrite)]
          exact hclears
        refine ⟨hstate ▸ hnamed, ?_, (congrArg Node.inner hstate).trans (n.puts_inner writes)⟩
        exact hstate.symm ▸ hstate'.symm ▸ hmatches
      · rw [if_neg hscript, if_neg fun hm => hscript (h.slot_eq_iff.2 hm)]
        obtain ⟨-, hnamed, hmatches⟩ := h.switchClause hn hm hsort (args.first.toJson n)
        exact ⟨hnamed, hmatches, rfl⟩

/-- Every other call sees and changes the settings only. -/
theorem Named.call_other (hn : n.Named) (hm : m.Named) (h : n.Matches m)
    {call : String × Arguments} (hcall : n.kind.isMove call = false)
    (hself : n.kind.LeavesOutSelf call) :
    (n.call call.1 call.2).state.Named ∧
      (n.call call.1 call.2).state.Matches (m.call call.1 call.2).state ∧
      (n.call call.1 call.2).state.inner = n.inner ∧
      (n.kind ≠ .sort → (n.call call.1 call.2).state.slot = n.slot) := by
  obtain ⟨method, args⟩ := call
  have hstill {p q : Outcome Node} (hp : p.state = n) (hq : q.state = m) :
      p.state.Named ∧ p.state.Matches q.state ∧ p.state.inner = n.inner ∧
        (n.kind ≠ .sort → p.state.slot = n.slot) := by
    rw [hp, hq]
    exact ⟨hn, h, rfl, fun _ => rfl⟩
  unfold Node.call
  rw [← h.kind]
  cases hop : Entries.get? n.kind.methods method with
  | none => exact hstill rfl rfl
  | some op =>
    dsimp only
    rcases Kind.method_cases hn.mem_withField hop with
      ⟨spots, hspots, hclears⟩ | (hlook | rfl) | ⟨rfl, hfield⟩ | ⟨hdecay, hcurve, -⟩ |
        ⟨hsort, hclause⟩
    · have hcategory : ∀ k ∈ Kind.withField, ∀ entry ∈ k.methods,
          entry.2.expected? ≠ some .spanQuery ∧
            entry.2.expected? ≠ k.category.map Expected.category := by decide
      obtain ⟨hspan, hexpected⟩ := hcategory _ hn.mem_withField _ (Entries.mem_of_get? hop)
      have hdetached : op.Detached n.kind args := by
        refine op.detached (hself op hop) hspan fun c hc hkind => hexpected ?_
        rw [hkind]
        exact hc
      have halike := op.run_alike hspots h.kind (fun s hs => h.look hn hm (hclears s hs))
        (hdetached.agree h.kind)
      obtain ⟨writes, hwrites, hstate, hstate'⟩ := halike.writes
      rw [hstate, hstate']
      obtain ⟨hnamed, hmatches⟩ :=
        h.puts hn hm fun write hwrite => hclears _ (hwrites write hwrite)
      exact ⟨hnamed, hmatches, n.puts_inner writes, fun _ => n.puts_slot writes⟩
    · cases op with
      | inspect i => exact hstill (i.run_state n) (i.run_state m)
      | _ => cases hlook
    · exact hstill rfl rfl
    · have hnull : args.first.isNull = true := by
        simp only [Kind.isMove, Bool.or_eq_false_iff, isRename] at hcall
        simpa using hcall.1
      have hread : op.run n args = .value n (.str n.inner) ∧
          op.run m args = .value m (.str m.inner) := by
        rcases hfield with ⟨rfl, -⟩ | ⟨rfl, -⟩ | ⟨rfl, -⟩
        · exact ⟨if_pos hnull, if_pos hnull⟩
        · exact ⟨if_pos hnull, if_pos hnull⟩
        · exact ⟨if_pos hnull, if_pos hnull⟩
      exact hstill (congrArg Outcome.state hread.1) (congrArg Outcome.state hread.2)
    · simp [Kind.isMove, Kind.isChoice, hdecay, hcurve] at hcall
    · obtain ⟨c, rfl, hc⟩ : ∃ c, op = .sort c ∧ (c = .geoDistance ∨ c = .script) :=
        hclause.elim (fun hop => ⟨_, hop, .inl rfl⟩) fun hop => ⟨_, hop, .inr rfl⟩
      obtain ⟨hnamed, hmatches, hinner⟩ := hn.run_clause hm h hsort hc (hself _ hop)
      exact ⟨hnamed, hmatches, hinner, fun hne => absurd hsort hne⟩

end Node

/-! ## New nodes -/

namespace Kind

/-- Where the body of a new node about a field stands. -/
def firstSlot (k : Kind) (name : String) : String :=
  match k with
  | query q => q.discriminator
  | filter f => f.discriminator
  | score _ => "gauss"
  | _ => name

/-- The parameter that follows the name of the field in a construction. -/
def besideField : Kind → List String
  | query .term | query .spanTerm | filter .term => ["term"]
  | query .wordStart | filter .wordStart => ["prefix"]
  | query .wildcard => ["pattern"]
  | query .text => ["query"]
  | query .terms | filter .terms => ["terms"]
  | _ => []

/-- The name of the field that a construction gives. -/
def fieldName (k : Kind) (args : Arguments) : String :=
  match k with
  | sort => ((args.first? []).map Argument.name).getD "_score"
  | k => (args.first k.besideField).name

/-- What a construction keeps for the field. -/
def fieldContent (k : Kind) (args : Arguments) : Option Json :=
  let empty : Node := .envelope k (k.firstSlot "") []
  let held (key what : String) : Json := .obj [(key, (args.get 1 what).toJson empty)]
  match k with
  | query .term | query .spanTerm => some (held "value" "term")
  | query .wordStart => some (held "value" "prefix")
  | query .wildcard => some (held "value" "pattern")
  | query .text => some (held "query" "query")
  | query .terms | filter .terms => some (FieldMethod.termsOf empty (args.get 1 "terms"))
  | filter .term => some ((args.get 1 "term").toJson empty)
  | filter .wordStart => some ((args.get 1 "prefix").toJson empty)
  | filter .geoDistance | sort => none
  | _ => some .empty

end Kind

/-- A new node about a field, with what it keeps for the field. -/
def Node.started (k : Kind) (name : String) (content : Option Json) : Node where
  kind := k
  fragment := .obj [(k.firstSlot name, .obj (content.toList.map fun value => (name, value)))]
  slot := k.firstSlot name
  inner := name

namespace Kind

variable {k : Kind}

/-- A node about a field starts with its name and at most one value under it. -/
theorem build_field (hk : k ∈ withField) (args : Arguments) :
    k.build args = .chained (.started k (k.fieldName args) (k.fieldContent args)) := by
  simp only [withField, List.mem_cons, List.not_mem_nil, or_false] at hk
  rcases hk with rfl | rfl | rfl | rfl | rfl | rfl | rfl | rfl | rfl | rfl | rfl | rfl | rfl | rfl |
    rfl <;> rfl

theorem isSome_fieldContent (hk : k ∈ withField) (args : Arguments) :
    (k.fieldContent args).isSome = k.keepsField := by
  simp only [withField, List.mem_cons, List.not_mem_nil, or_false] at hk
  rcases hk with rfl | rfl | rfl | rfl | rfl | rfl | rfl | rfl | rfl | rfl | rfl | rfl | rfl | rfl |
    rfl <;> rfl

end Kind

/-- Arguments with the name of a field in front. -/
def Arguments.withField (args : Arguments) (name : String) : Arguments :=
  { args with positional := .plain (.str name) :: args.positional }

/-- What a new node keeps for its field does not depend on the name of the field. -/
theorem Kind.build_withField {k : Kind} (hk : k ∈ withField) (args : Arguments) :
    ∃ content : Option Json, content.isSome = k.keepsField ∧
      ∀ name, k.build (args.withField name) = .chained (.started k name content) := by
  refine ⟨k.fieldContent (args.withField ""), isSome_fieldContent hk _, fun name => ?_⟩
  have hname : k.fieldName (args.withField name) = name := by cases k <;> rfl
  have hcontent : k.fieldContent (args.withField name) = k.fieldContent (args.withField "") := by
    cases k with
    | query q => cases q <;> rfl
    | filter f => cases f <;> rfl
    | _ => rfl
  rw [build_field hk, hname, hcontent]

/-- The slot that a kind starts with does not depend on the name, but for sort clauses. -/
theorem Kind.firstSlot_congr {k : Kind} (hk : k ∈ withField) (hsort : k ≠ .sort)
    (name name' : String) : k.firstSlot name = k.firstSlot name' := by
  cases k with
  | query | filter | score => rfl
  | sort => exact absurd rfl hsort
  | _ => simp [withField] at hk

namespace Node

/-- A node about a field starts tidy. -/
theorem started_tidy {k : Kind} (hk : k ∈ Kind.withField) {name : String}
    (hname : k = .sort → name ≠ distanceKey) {content : Option Json}
    (hcontent : content.isSome = k.keepsField) :
    (started k name content).Tidy
      [(k.firstSlot name, .obj (content.toList.map fun value => (name, value)))]
      (content.toList.map fun value => (name, value)) where
  kind := hk
  fragment := rfl
  slot := if_pos rfl
  beside := fun key hkey => .inl (Entries.key_of_one hkey)
  options := by
    intro key hkey
    cases content with
    | none => exact absurd rfl hkey
    | some value =>
      refine .inr ⟨Entries.key_of_one hkey, ?_⟩
      rintro rfl
      cases hcontent
  field := by
    rintro (hkeeps | ⟨rfl, hslot⟩)
    · obtain ⟨value, rfl⟩ := Option.isSome_iff_exists.1 (hcontent.trans hkeeps)
      exact fun hnone => Option.some_ne_none value ((if_pos rfl).symm.trans hnone)
    · exact absurd hslot (hname rfl)
  stands := by
    change k.Stands name (k.firstSlot name)
    unfold Kind.Stands
    split
    · exact List.mem_cons_self
    · exact .inl rfl
    · trivial

theorem ne_distanceKey {k : Kind} {name : String} (hname : name ∉ k.reservedNames) :
    k = .sort → name ≠ distanceKey := by
  rintro rfl rfl
  exact hname (by decide)

theorem started_named {k : Kind} (hk : k ∈ Kind.withField) {name : String}
    (hname : name ∉ k.reservedNames) {content : Option Json}
    (hcontent : content.isSome = k.keepsField) : (started k name content).Named :=
  ⟨⟨_, _, started_tidy hk (ne_distanceKey hname) hcontent⟩, hname⟩

/-- A node about a field starts with no settings but its first value. -/
theorem started_settings {k : Kind} (hk : k ∈ Kind.withField) {name : String}
    (hname : name ∉ k.reservedNames) {content : Option Json}
    (hcontent : content.isSome = k.keepsField) : (started k name content).settings =
      { beside := fun _ => none, options := fun _ => none, field := content } := by
  rw [(started_tidy hk (ne_distanceKey hname) hcontent).settings_eq]
  refine Settings.ext (Entries.apartFrom_one _ _) ?_ ?_
  · cases content with
    | none => exact Entries.apartFrom_of_absent rfl
    | some value => exact Entries.apartFrom_one _ _
  · cases content with
    | none => rfl
    | some value => exact if_pos rfl

/-- New nodes about two fields match. -/
theorem started_matches {k : Kind} (hk : k ∈ Kind.withField) {name name' : String}
    (hname : name ∉ k.reservedNames) (hname' : name' ∉ k.reservedNames) {content : Option Json}
    (hcontent : content.isSome = k.keepsField) :
    (started k name content).Matches (started k name' content) := by
  refine ⟨rfl, ?_, ?_⟩
  · rw [started_settings hk hname hcontent, started_settings hk hname' hcontent]
  · by_cases hsort : k = .sort
    · subst hsort
      have hnone {name : String} (hname : name ∉ Kind.sort.reservedNames) :
          (started .sort name content).switched? = none := by
        refine if_neg ?_
        rintro (hslot | hslot) <;>
          · obtain rfl : name = _ := hslot
            exact hname (by decide)
      rw [hnone hname, hnone hname']
    · exact switched?_congr (Kind.firstSlot_congr hk hsort name name')

end Node

/-! ## Runs -/

/-- The name of the field after some calls. -/
def lastName (start : String) (calls : List (String × Arguments)) : String :=
  calls.foldl (fun name call => if isRename call then call.2.first.name else name) start

namespace Kind

/-- The curve of a decay function after some calls. -/
def lastCurve (k : Kind) (start : String) (calls : List (String × Arguments)) : String :=
  calls.foldl (fun curve call => if k.isChoice call then call.1 else curve) start

/-- The calls without those that choose a curve before another call does. -/
def keepLastChoice (k : Kind) : List (String × Arguments) → List (String × Arguments)
  | [] => []
  | call :: rest =>
    if k.isChoice call && rest.any k.isChoice then k.keepLastChoice rest
    else call :: k.keepLastChoice rest

/-- A call that stores nothing with the node itself in it, and gives its field no name of an
option. -/
structure Avoids (k : Kind) (call : String × Arguments) : Prop where
  self : k.LeavesOutSelf call
  name : isRename call = true → call.2.first.name ∉ k.reservedNames

theorem isRename_of_isChoice {k : Kind} {call : String × Arguments} (h : k.isChoice call = true) :
    isRename call = false := by
  simp only [isChoice, Bool.and_eq_true, List.contains_iff_mem] at h
  have hcurves : "field" ∉ curves := by decide
  simp only [isRename, Bool.and_eq_false_iff, decide_eq_false_iff_not]
  exact .inl fun hfield => hcurves (hfield ▸ h.2)

end Kind

namespace Node

variable {n m : Node} {calls calls' : List (String × Arguments)}

/-- What every call leaves of the two names. -/
theorem Named.call (hn : n.Named) {call : String × Arguments} (hcall : n.kind.Avoids call) :
    (n.call call.1 call.2).state.Named ∧
      (n.call call.1 call.2).state.inner =
        (if isRename call then call.2.first.name else n.inner) ∧
      (n.kind ≠ .sort → (n.call call.1 call.2).state.slot =
        if n.kind.isChoice call then call.1 else n.slot) := by
  cases hchoice : n.kind.isChoice call with
  | true =>
    rw [Kind.isRename_of_isChoice hchoice]
    obtain ⟨hnamed, -, hinner, hslot⟩ := hn.call_choice hchoice
    exact ⟨hnamed, hinner, fun _ => hslot⟩
  | false =>
    cases hrename : isRename call with
    | true =>
      obtain ⟨hnamed, -, hinner, hslot⟩ := hn.call_rename hrename (hcall.name hrename)
      exact ⟨hnamed, hinner, hslot⟩
    | false =>
      have hmove : n.kind.isMove call = false := by
        rw [Kind.isMove, hrename, hchoice]
        rfl
      obtain ⟨hnamed, -, hinner, hslot⟩ := hn.call_other hn (.refl n) hmove hcall.self
      exact ⟨hnamed, hinner, hslot⟩

/-- After some calls a node has the last name and the last curve that they give. -/
theorem Named.after (hn : n.Named) (hcalls : ∀ call ∈ calls, n.kind.Avoids call) :
    (n.after calls).Named ∧ (n.after calls).inner = lastName n.inner calls ∧
      (n.kind ≠ .sort → (n.after calls).slot = n.kind.lastCurve n.slot calls) := by
  induction calls generalizing n with
  | nil => exact ⟨hn, rfl, fun _ => rfl⟩
  | cons call rest ih =>
    obtain ⟨hnamed, hinner, hslot⟩ := hn.call (hcalls call List.mem_cons_self)
    have hkind := n.call_kind call.1 call.2
    obtain ⟨hnamed', hinner', hslot'⟩ := ih hnamed fun later hlater => by
      rw [hkind]
      exact hcalls later (List.mem_cons_of_mem _ hlater)
    refine ⟨hnamed', ?_, fun hsort => ?_⟩
    · rw [after_cons, hinner', hinner]
      rfl
    · rw [after_cons, hslot' (hkind ▸ hsort), hslot hsort, hkind]
      rfl

/-- Calls that move members can be left out on one of two nodes that match. -/
theorem Matches.after_core (h : n.Matches m) (hn : n.Named) (hm : m.Named)
    (hcalls : ∀ call ∈ calls, n.kind.Avoids call) :
    (n.after calls).Matches (m.after (calls.filter (!n.kind.isMove ·))) := by
  induction calls generalizing n m with
  | nil => exact h
  | cons call rest ih =>
    have hfirst := hcalls call List.mem_cons_self
    have hkind := n.call_kind call.1 call.2
    have hrest : ∀ later ∈ rest, (n.call call.1 call.2).state.kind.Avoids later :=
      fun later hlater => hkind ▸ hcalls later (List.mem_cons_of_mem _ hlater)
    have hnamed := (hn.call hfirst).1
    cases hmove : n.kind.isMove call with
    | true =>
      have hmoved : (n.call call.1 call.2).state.Matches n := by
        rcases Bool.or_eq_true_iff.1 hmove with hrename | hchoice
        · exact (hn.call_rename hrename (hfirst.name hrename)).2.1
        · exact (hn.call_choice hchoice).2.1
      rw [List.filter_cons_of_neg (by simp [hmove]), after_cons, ← hkind]
      exact ih (hmoved.trans h) hnamed hm hrest
    | false =>
      rw [List.filter_cons_of_pos (by simp [hmove]), after_cons, after_cons, ← hkind]
      exact ih (hn.call_other hm h hmove hfirst.self).2.1 hnamed
        (hm.call (h.kind ▸ hfirst)).1 hrest

/-- A sort clause stands under its field, or under the key of its own kind. -/
theorem Matches.slot_eq (h : n.Matches m) (hn : n.Named) (hm : m.Named) (hsort : n.kind = .sort)
    (hinner : n.inner = m.inner) : n.slot = m.slot := by
  have hcases {n : Node} (hn : n.Named) (hsort : n.kind = .sort) :
      n.slot = n.switched?.getD n.inner := by
    obtain ⟨_, _, htidy⟩ := hn.tidy
    have hstands := htidy.stands
    rw [hsort] at hstands
    unfold switched?
    split
    · rfl
    · next hswitched => exact hstands.resolve_right hswitched
  rw [hcases hn hsort, hcases hm (h.kind ▸ hsort), h.switched, hinner]

/-- Runs that differ in moves only end in the same document if the last names are the same. -/
theorem Matches.after_same (h : n.Matches m) (hn : n.Named) (hm : m.Named)
    (hcalls : ∀ call ∈ calls, n.kind.Avoids call) (hcalls' : ∀ call ∈ calls', n.kind.Avoids call)
    (hcore : calls.filter (!n.kind.isMove ·) = calls'.filter (!n.kind.isMove ·))
    (hname : lastName n.inner calls = lastName m.inner calls')
    (hcurve : n.kind ≠ .sort →
      n.kind.lastCurve n.slot calls = n.kind.lastCurve m.slot calls') :
    Json.Same (n.after calls).fragment (m.after calls').fragment := by
  have hkept := (Matches.refl m).after_core hm hm (h.kind ▸ hcalls')
  have hmatches : (n.after calls).Matches (m.after calls') := by
    refine (h.after_core hn hm hcalls).trans ?_
    rw [hcore, h.kind]
    exact hkept.symm
  obtain ⟨hnamed, hinner, hslot⟩ := hn.after hcalls
  obtain ⟨hnamed', hinner', hslot'⟩ := hm.after (h.kind ▸ hcalls')
  have hinners : (n.after calls).inner = (m.after calls').inner := by rw [hinner, hinner', hname]
  have hslots : (n.after calls).slot = (m.after calls').slot := by
    by_cases hsort : n.kind = .sort
    · exact hmatches.slot_eq hnamed hnamed' ((n.after_kind calls).trans hsort) hinners
    · rw [hslot hsort, hslot' (h.kind ▸ hsort), ← h.kind, hcurve hsort]
  obtain ⟨_, _, htidy⟩ := hnamed.tidy
  obtain ⟨_, _, htidy'⟩ := hnamed'.tidy
  exact htidy.same htidy' hmatches.settings hslots hinners

end Node

/-! ## Runs without some of their moves -/

/-- Without the renamings the name stays. -/
theorem lastName_filter (start : String) (calls : List (String × Arguments)) :
    lastName start (calls.filter (!isRename ·)) = start := by
  unfold lastName
  rw [List.foldl_filter]
  induction calls with
  | nil => rfl
  | cons call rest ih =>
    rw [List.foldl_cons]
    cases isRename call <;> exact ih

namespace Kind

variable {k : Kind}

/-- The renamings do not matter for the curve. -/
theorem lastCurve_filter (start : String) (calls : List (String × Arguments)) :
    k.lastCurve start (calls.filter (!isRename ·)) = k.lastCurve start calls := by
  unfold lastCurve
  rw [List.foldl_filter]
  congr 1
  funext curve call
  cases hchoice : k.isChoice call with
  | true => rw [isRename_of_isChoice hchoice]; rfl
  | false => exact ite_self _

theorem core_filter (calls : List (String × Arguments)) :
    (calls.filter (!isRename ·)).filter (!k.isMove ·) = calls.filter (!k.isMove ·) := by
  rw [List.filter_filter]
  refine List.filter_congr fun call _ => ?_
  unfold isMove
  cases isRename call <;> simp

theorem keepLastChoice_sublist (calls : List (String × Arguments)) :
    (k.keepLastChoice calls).Sublist calls := by
  induction calls with
  | nil => exact .slnil
  | cons call rest ih =>
    unfold keepLastChoice
    split
    · exact .cons _ ih
    · exact .cons_cons _ ih

theorem core_keepLastChoice (calls : List (String × Arguments)) :
    (k.keepLastChoice calls).filter (!k.isMove ·) = calls.filter (!k.isMove ·) := by
  induction calls with
  | nil => rfl
  | cons call rest ih =>
    unfold keepLastChoice
    split
    · next hdropped =>
      have hmove : k.isMove call = true := by
        rw [isMove, (Bool.and_eq_true_iff.1 hdropped).1, Bool.or_true]
      rw [ih, List.filter_cons_of_neg (by simp [hmove])]
    · rw [List.filter_cons, List.filter_cons, ih]

theorem lastName_keepLastChoice (start : String) (calls : List (String × Arguments)) :
    lastName start (k.keepLastChoice calls) = lastName start calls := by
  induction calls generalizing start with
  | nil => rfl
  | cons call rest ih =>
    unfold keepLastChoice
    split
    · next hdropped =>
      rw [ih, lastName, lastName, List.foldl_cons,
        isRename_of_isChoice (Bool.and_eq_true_iff.1 hdropped).1]
      rfl
    · exact ih _

/-- Where a curve is chosen later on, the first one does not matter. -/
theorem lastCurve_congr {calls : List (String × Arguments)} (h : calls.any k.isChoice = true)
    (start start' : String) : k.lastCurve start calls = k.lastCurve start' calls := by
  induction calls generalizing start start' with
  | nil => cases h
  | cons call rest ih =>
    unfold lastCurve
    rw [List.foldl_cons, List.foldl_cons]
    cases hchoice : k.isChoice call with
    | true => rfl
    | false =>
      rw [List.any_cons, hchoice, Bool.false_or] at h
      exact ih h _ _

/-- The last choice of a curve is kept. -/
theorem lastCurve_keepLastChoice (start : String) (calls : List (String × Arguments)) :
    k.lastCurve start (k.keepLastChoice calls) = k.lastCurve start calls := by
  induction calls generalizing start with
  | nil => rfl
  | cons call rest ih =>
    unfold keepLastChoice
    split
    · next hdropped =>
      rw [ih]
      exact lastCurve_congr (Bool.and_eq_true_iff.1 hdropped).2 _ _
    · exact ih _

end Kind

/-- No call of a program that avoids the reserved names gives one. -/
theorem lastName_notMem {k : Kind} {start : String} (hstart : start ∉ k.reservedNames)
    {calls : List (String × Arguments)} (hcalls : ∀ call ∈ calls, k.Avoids call) :
    lastName start calls ∉ k.reservedNames := by
  induction calls generalizing start with
  | nil => exact hstart
  | cons call rest ih =>
    refine ih ?_ fun later hlater => hcalls later (List.mem_cons_of_mem _ hlater)
    dsimp only
    split
    · next hrename => exact (hcalls call List.mem_cons_self).name hrename
    · exact hstart

/-- A decay function stands under its curve and under no other one. -/
theorem Node.Tidy.curves_eq {n : Node} {members body : Entries Json} (h : n.Tidy members body)
    (hdecay : n.kind = .score .decay) :
    curves.filter (fun curve => (n.fragment.part? [curve]).isSome) = [n.slot] := by
  have hslot : n.slot ∈ curves := by
    have hstands := h.stands
    rw [hdecay] at hstands
    exact hstands
  have hbeside : ∀ curve ∈ curves, curve ∉ n.kind.besideKeys := by
    rw [hdecay]
    decide
  have hone : ∀ curve ∈ curves,
      (n.fragment.part? [curve]).isSome = decide (curve = n.slot) := by
    intro curve hcurve
    rw [h.fragment, Json.part?_eq_look _ (List.cons_ne_nil _ _), Json.look_one, Option.join_some,
      Bool.eq_iff_iff, Option.isSome_iff_ne_none, decide_eq_true_iff]
    refine ⟨fun hpresent => (h.beside curve hpresent).resolve_right (hbeside _ hcurve), ?_⟩
    rintro rfl
    rw [h.slot]
    exact Option.some_ne_none _
  have honly : ∀ slot ∈ curves, curves.filter (fun curve => curve = slot) = [slot] := by decide
  rw [← honly n.slot hslot]
  exact List.filter_congr hone

/-- Renames leave no residue: a run ends in the same document as one without them that has the last
name from the start. For a decay function it is the same without all curves but the last, and it
stands under the curve that it answers. -/
theorem Node.moves_erased {k : Kind} (hk : k ∈ Kind.withField) (args : Arguments) (start : String)
    (calls : List (String × Arguments)) (hstart : start ∉ k.reservedNames)
    (hcalls : ∀ call ∈ calls, k.Avoids call) :
    let built (name : String) := k.build (args.withField name)
    let name := lastName start calls
    let stays := calls.filter (!isRename ·)
    let n := (built start).state.after calls
    (∀ name, (built name).answer = .ok .self) ∧
      Json.Same n.fragment ((built name).state.after stays).fragment ∧
      (k = .score .decay →
        Json.Same n.fragment ((built start).state.after (k.keepLastChoice calls)).fragment ∧
        Json.Same n.fragment ((built name).state.after (k.keepLastChoice stays)).fragment ∧
        curves.filter (fun curve => (n.fragment.part? [curve]).isSome) = [n.slot] ∧
        ∀ args, (n.call "curve" args).answer = .ok (.value (.str n.slot))) := by
  intro built name stays n
  obtain ⟨content, hcontent, hbuilt⟩ := Kind.build_withField hk args
  have hstate (name : String) : (built name).state = .started k name content :=
    congrArg Outcome.state (hbuilt name)
  have hn : n = (started k start content).after calls := by rw [← hstate]
  have hstays : ∀ call ∈ stays, k.Avoids call := fun call hcall =>
    hcalls call (List.mem_filter.1 hcall).1
  have hname : name ∉ k.reservedNames := lastName_notMem hstart hcalls
  have hnamed := started_named hk hstart hcontent
  have hnamed' := started_named hk hname hcontent
  have hmatches := started_matches hk hstart hname hcontent
  have hcurve (hsort : k ≠ .sort) : k.lastCurve (k.firstSlot start) calls =
      k.lastCurve (k.firstSlot name) stays := by
    rw [Kind.lastCurve_filter, Kind.firstSlot_congr hk hsort start name]
  refine ⟨fun name => congrArg Outcome.answer (hbuilt name), ?_, fun hdecay => ⟨?_, ?_, ?_, ?_⟩⟩
  · rw [hn, hstate]
    exact hmatches.after_same hnamed hnamed' hcalls hstays (Kind.core_filter calls).symm
      (lastName_filter name calls).symm hcurve
  · rw [hn, hstate]
    exact (Matches.refl _).after_same hnamed hnamed hcalls
      (fun call hcall => hcalls call ((Kind.keepLastChoice_sublist calls).mem hcall))
      (Kind.core_keepLastChoice calls).symm (Kind.lastName_keepLastChoice start calls).symm
      fun _ => (Kind.lastCurve_keepLastChoice _ calls).symm
  · rw [hn, hstate]
    refine hmatches.after_same hnamed hnamed' hcalls
      (fun call hcall => hstays call ((Kind.keepLastChoice_sublist stays).mem hcall)) ?_ ?_
      fun hsort => ?_
    · exact (Kind.core_filter calls).symm.trans (Kind.core_keepLastChoice stays).symm
    · exact (lastName_filter name calls).symm.trans (Kind.lastName_keepLastChoice name stays).symm
    · exact (hcurve hsort).trans (Kind.lastCurve_keepLastChoice _ stays).symm
  · obtain ⟨_, _, htidy⟩ := (hnamed.after hcalls).1.tidy
    rw [hn]
    exact htidy.curves_eq ((after_kind _ _).trans hdecay)
  · intro args
    have hkind : n.kind = .score .decay := by
      rw [after_kind, hstate]
      exact hdecay
    unfold Node.call
    rw [hkind]
    rfl

/-- A decay function with three names and three curves in turn, and the one that has the last ones
at once. -/
theorem Node.moves_erased_linear :
    let calls : List (String × Arguments) :=
      [("origin", .one (.plain (.str "now"))), ("field", .one (.plain (.str "created"))),
        ("exp", {}), ("scale", .one (.plain (.str "10d"))),
        ("field", .one (.plain (.str "published"))), ("linear", {}), ("field", {})]
    let built (name : String) := (Kind.score .decay).build (Arguments.withField {} name)
    let n := (built "age").state.after calls
    let stays := calls.filter (!isRename ·)
    .score .decay ∈ Kind.withField ∧ "age" ∉ (Kind.score .decay).reservedNames ∧
      (∀ call ∈ calls, (Kind.score .decay).Avoids call) ∧ lastName "age" calls = "published" ∧
      stays.map (·.1) = ["origin", "exp", "scale", "linear", "field"] ∧
      ((Kind.score .decay).keepLastChoice stays).map (·.1) =
        ["origin", "scale", "linear", "field"] ∧
      Json.Same n.fragment
        ((built "published").state.after ((Kind.score .decay).keepLastChoice stays)).fragment ∧
      curves.filter (fun curve => (n.fragment.part? [curve]).isSome) = ["linear"] := by
  intro calls built n stays
  have hk : .score .decay ∈ Kind.withField := by decide
  have hstart : "age" ∉ (Kind.score .decay).reservedNames := by decide
  have hcalls : ∀ call ∈ calls, (Kind.score .decay).Avoids call := by
    have hforeign : ∀ call ∈ calls, call.2.Foreign := by
      simp [calls, Arguments.Foreign, Arguments.one, Argument.Foreign.plain]
    have hfree : ∀ call ∈ calls, isRename call = true →
        call.2.first.name ∉ (Kind.score .decay).reservedNames := by decide
    exact fun call hcall => ⟨fun op _ => (hforeign call hcall).stored op, hfree call hcall⟩
  obtain ⟨-, -, hdecay⟩ := moves_erased hk {} "age" calls hstart hcalls
  obtain ⟨-, hsame, hone, -⟩ := hdecay rfl
  exact ⟨hk, hstart, hcalls, by decide, by decide, by decide, hsame, hone⟩

end SearchBuilder
