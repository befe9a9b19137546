import SearchBuilder.Proofs.Document.Frame
import SearchBuilder.Proofs.Document.Locality

/-!
# Sections of named entries

The facets, aggregations, script fields and suggestions of a request, and the aggregations inside
an aggregation, are sections: objects with one entry for each name. A call adds the one member of a
node that stands under a name (`Child.IsEntry`), or the text to suggest for. `Node.Collects` says
that a section holds what was added, and `Node.call_collects` what a call does to it; all other
calls write elsewhere.
-/

namespace SearchBuilder

/-! ## Nodes under a name -/

/-- The categories of nodes that stand under a name. -/
def Category.isNamed : Category → Bool
  | aggregation | facet | suggest | scriptField => true
  | _ => false

theorem Kind.isNamed_of_category {k : Kind} {c : Category} (h : k.category = some c)
    (hc : c.isNamed = true) : k.isNamed = true := by
  cases k <;> cases h <;> first | rfl | cases hc

/-- A node that stands under a name, if its category asks for that. -/
def Child.IsEntry (child : Child) : Prop :=
  ∀ c, child.category = some c → c.isNamed = true →
    ∃ name body, child.fragment = .obj [(name, body)]

/-- A node whose fragment has one member only, under its slot. -/
def Node.Enveloped (n : Node) : Prop := ∃ body, n.fragment = .obj [(n.slot, body)]

namespace Node.Enveloped

variable {n : Node}

theorem setMember (h : n.Enveloped) (value : Json) :
    ∃ body, n.fragment.setMember n.slot value = .obj [(n.slot, body)] := by
  obtain ⟨body, hbody⟩ := h
  refine ⟨value, ?_⟩
  rw [hbody]
  simp [Json.setMember, Json.setMember?, Entries.set]

theorem replace (h : n.Enveloped) {place : Place} (hplace : place ≠ .root) (value : Json) :
    (n.replace place value).Enveloped := by
  cases place with
  | root => exact absurd rfl hplace
  | body | inner => exact h.setMember _

theorem put (h : n.Enveloped) {s : Spot} (hs : s.place ≠ .root) (value : Json) :
    (n.put s value).Enveloped := by
  obtain ⟨body, hbody⟩ := h
  obtain ⟨rest, hpath, hrest⟩ : ∃ rest, n.spotPath s = n.slot :: rest ∧ rest ≠ [] := by
    unfold spotPath
    cases hplace : s.place with
    | root => exact absurd hplace hs
    | body => exact ⟨[s.key n.inner], rfl, List.cons_ne_nil _ _⟩
    | inner => exact ⟨[n.inner, s.key n.inner], rfl, List.cons_ne_nil _ _⟩
  have hmember : Entries.get? [(n.slot, body)] n.slot = some body := by simp [Entries.get?]
  refine ⟨body.put rest value, ?_⟩
  change n.fragment.put (n.spotPath s) value = .obj [(n.slot, body.put rest value)]
  rw [hbody, hpath, Json.put_cons_of_some hrest hmember]
  simp [Entries.set]

theorem puts (h : n.Enveloped) {writes : List (Spot × Json)}
    (hwrites : ∀ write ∈ writes, write.1.place ≠ .root) : (n.puts writes).Enveloped := by
  induction writes generalizing n with
  | nil => exact h
  | cons write rest ih =>
    exact ih (h.put (hwrites write List.mem_cons_self) write.2) fun later hlater =>
      hwrites later (List.mem_cons_of_mem _ hlater)

end Node.Enveloped

/-- Whether an operation is about the fuzzy settings of a suggester. -/
def Operation.isFuzzy : Operation → Bool
  | .suggestion .fuzzy | .suggestion (.fuzzyOption _) => true
  | _ => false

/-- The methods of a node that stands under a name are about what is inside. -/
theorem Kind.inside_methods {k : Kind} (hk : k.isNamed = true) :
    ∀ entry ∈ k.methods,
      (entry.2.spots?.any (·.all (·.place != .root)) || entry.2.isInspection ||
        entry.2.isFuzzy) = true := by
  cases k with
  | aggregation k => cases k <;> decide
  | facet k => cases k <;> decide
  | suggester k => cases k <;> decide
  | scriptField => decide
  | _ => cases hk

namespace Node.Enveloped

variable {n : Node}

/-- Settings of fuzziness stay inside of the envelope. -/
theorem fuzzy (h : n.Enveloped) {op : Operation} (hop : op.isFuzzy = true) (args : Arguments) :
    (op.run n args).state.Enveloped := by
  cases op with
  | suggestion m =>
    cases m with
    | fuzzy =>
      simp only [Operation.run, SuggestionMethod.run]
      split
      · exact (n.readOption_state .inner "fuzzy").symm ▸ h
      · split
        · exact h
        · split
          · exact h.replace (by decide) _
          · exact h.replace (by decide) _
    | fuzzyOption key =>
      simp only [Operation.run, SuggestionMethod.run]
      split
      · exact h
      · split
        · exact (n.readThrough_state _).symm ▸ h
        · let addition (n : Node) : Json := .obj [(key, args.first.toJson n)]
          obtain ⟨writes, hwrites, hstate, -⟩ := (mergeSection_alike (n := n) (m := n)
            (s := .option .inner "fuzzy") rfl fun writes =>
              (rfl : addition (n.puts writes) = addition (n.puts writes))).writes
          refine hstate ▸ h.puts fun write hwrite => ?_
          rw [List.mem_singleton.1 (hwrites write hwrite)]
          exact Place.noConfusion
    | _ => cases hop
  | _ => cases hop

/-- A node that stands under a name stays under it. -/
theorem call (h : n.Enveloped) (hk : n.kind.isNamed = true) (method : String) (args : Arguments) :
    (n.call method args).state.Enveloped := by
  unfold Node.call
  split
  · next op hop =>
    have hinside := Kind.inside_methods hk _ (Entries.mem_of_get? hop)
    simp only [Bool.or_eq_true, Option.any_eq_true, List.all_eq_true, bne_iff_ne] at hinside
    rcases hinside with (⟨spots, hspots, hplaces⟩ | hlook) | hfuzzy
    · obtain ⟨writes, hwrites, hstate⟩ := op.run_writes hspots n args
      exact hstate ▸ h.puts fun write hwrite => hplaces _ (hwrites write hwrite)
    · cases op with
      | inspect i => exact (i.run_state n).symm ▸ h
      | _ => cases hlook
    · exact h.fuzzy hfuzzy args
  · exact h

end Node.Enveloped

/-- Kinds with names are built as envelopes. -/
theorem Kind.build_enveloped {k : Kind} (hk : k.isNamed = true) (args : Arguments) :
    (k.build args).state.Enveloped := by
  cases k with
  | aggregation k => cases k <;> exact ⟨_, rfl⟩
  | facet k => cases k <;> exact ⟨_, rfl⟩
  | suggester k => cases k <;> exact ⟨_, rfl⟩
  | scriptField => exact ⟨_, rfl⟩
  | _ => cases hk

/-! ## Entries of sections -/

/-- The entry that an accepted argument makes: a text is the one to suggest for, a node stands
under its name. -/
def Argument.entry : Argument → String × Json
  | .plain (.str text) => ("text", .str text)
  | .node child => (child.fragment.members?.bind (·.head?)).getD ("", .null)
  | _ => ("", .null)

/-- An argument that makes an entry of a section: a node with one member, or the text to suggest
for. -/
def Argument.MakesEntry (v : Argument) (key : String) : Prop :=
  (key = "suggest" ∧ ∃ text, v = .plain (.str text)) ∨
    ∃ child, v = .node child ∧ child.fragment = .obj [v.entry]

/-- What a section holds after entries were added one after the other. -/
def merged (given : List (String × Json)) : Option Json :=
  if given.isEmpty then none else some (.obj (Entries.ofList given))

theorem getD_merged (given : List (String × Json)) :
    (merged given).getD .empty = .obj (Entries.ofList given) := by
  cases given <;> rfl

/-- A further entry is merged into what is collected. -/
theorem merged_concat (given : List (String × Json)) (entry : String × Json) :
    merged (given ++ [entry]) = some (.obj (Entries.merge (Entries.ofList given) [entry])) := by
  have hne : (given ++ [entry]).isEmpty = false := by simp
  rw [merged, hne, Entries.ofList, Entries.ofList, Entries.merge, List.foldl_append]
  rfl

/-! ## Sections of kinds -/

/-- The sections of named entries, by the methods that add to them. -/
def sectionMethods : Entries String :=
  [("facet", "facets"), ("aggregation", "aggs"), ("agg", "aggs"),
    ("script_field", "script_fields"), ("suggest", "suggest")]

namespace Kind

/-- The sections of named entries of a kind. -/
def namedSections : Kind → List String
  | request => ["facets", "aggs", "script_fields", "suggest"]
  | aggregation _ => ["aggs"]
  | _ => []

/-- Where the sections of named entries are. -/
def sectionPlace : Kind → Place
  | request => .root
  | _ => .body

/-- Whether a spot is apart from a section of a kind. -/
def spares (k : Kind) (key : String) : Spot → Bool
  | .option place other => place == k.sectionPlace && other != key ||
      place == .inner && k.sectionPlace == .body
  | .field => false

/-- A method that adds to a section merges nodes of a named category into it, and nothing else
writes there. -/
theorem methods_cases {k : Kind} {key : String} (hkey : key ∈ k.namedSections) :
    ∀ entry ∈ k.methods,
      (Entries.get? sectionMethods entry.1 = some key ∧
        (entry.2 = .bucket .noSubAggregations ∨ k.sectionPlace = .root ∧ key = "suggest" ∧
          entry.2 = .body .suggest ∨
        ∃ c ∈ Category.all, c.isNamed = true ∧ entry.2 = Operation.named k.sectionPlace key c)) ∨
      (Entries.get? sectionMethods entry.1 ≠ some key ∧
        (entry.2.spots?.any (·.all (k.spares key)) || entry.2.isInspection) = true) := by
  cases k with
  | request =>
    simp only [namedSections, List.mem_cons, List.not_mem_nil, or_false] at hkey
    rcases hkey with rfl | rfl | rfl | rfl <;> decide
  | aggregation k =>
    obtain rfl := List.mem_singleton.1 hkey
    cases k <;> decide
  | _ => cases hkey

end Kind

theorem Node.run_noSubAggregations (n : Node) (args : Arguments) :
    ((Operation.bucket .noSubAggregations).run n args).state = n ∧
      ((Operation.bucket .noSubAggregations).run n args).answer ≠ .ok .self := by
  simp only [Operation.run, BucketMethod.run]
  split
  · exact ⟨rfl, fun haccepted => by cases haccepted⟩
  · exact ⟨rfl, fun haccepted => by cases haccepted⟩

/-- The aggregations that compute metrics. -/
def Kind.isMetric : Kind → Bool
  | aggregation k => match k with
    | .genericMetrics | .avg | .sum | .min | .max | .stats | .valueCount | .cardinality => true
    | _ => false
  | _ => false

/-- Metrics refuse aggregations under each of the names for them. -/
theorem Kind.metric_methods {k : Kind} (hk : k.isMetric = true) :
    ∀ entry ∈ sectionMethods, entry.2 = "aggs" →
      Entries.get? k.methods entry.1 = some (.bucket .noSubAggregations) := by
  cases k with
  | aggregation k => cases k <;> first | decide | cases hk
  | _ => cases hk

/-- A metric accepts no aggregation, and stays as it is. -/
theorem Node.call_metric {n : Node} (hn : n.kind.isMetric = true) {method : String}
    (hmethod : Entries.get? sectionMethods method = some "aggs") (args : Arguments) :
    (n.call method args).state = n ∧ (n.call method args).answer ≠ .ok .self := by
  unfold call
  rw [Kind.metric_methods hn _ (Entries.mem_of_get? hmethod) rfl]
  exact n.run_noSubAggregations args

/-! ## Spots beside a section -/

/-- A spot that spares a section is apart from it, unless the settings of the node are the
section. -/
theorem Node.spares_cases {n : Node} {key : String} {s : Spot}
    (h : n.kind.spares key s = true) :
    (n.spotPath s).Apart (n.spotPath (.option n.kind.sectionPlace key)) ∨
      (n.kind.sectionPlace = .body ∧ n.inner = key) ∧
        ∃ other, n.spotPath s = n.spotPath (.option n.kind.sectionPlace key) ++ [other] := by
  cases s with
  | field => cases h
  | option place other =>
    simp only [Kind.spares, Bool.or_eq_true, Bool.and_eq_true, beq_iff_eq, bne_iff_ne] at h
    rcases h with ⟨rfl, hne⟩ | ⟨rfl, hbody⟩
    · exact .inl (Path.apart_of_ne _ hne)
    · unfold spotPath
      simp only [Spot.place, Spot.key, hbody, path, true_and]
      by_cases hinner : n.inner = key
      · subst hinner
        exact .inr ⟨rfl, other, rfl⟩
      · refine .inl ?_
        exact Path.apart_cons.2 fun _ => Path.apart_cons.2 fun heq => absurd heq hinner

/-- A method that is not about a section writes to spots that spare it. -/
theorem Operation.run_spares {op : Operation} {n : Node} {key : String}
    (h : (op.spots?.any (·.all (n.kind.spares key)) || op.isInspection) = true)
    (args : Arguments) : ∃ writes : List (Spot × Json),
      (∀ write ∈ writes, n.kind.spares key write.1 = true) ∧
        (op.run n args).state = n.puts writes := by
  simp only [Bool.or_eq_true, Option.any_eq_true, List.all_eq_true] at h
  rcases h with ⟨spots, hspots, hspared⟩ | hlook
  · obtain ⟨writes, hwrites, hstate⟩ := op.run_writes hspots n args
    exact ⟨writes, fun write hwrite => hspared _ (hwrites write hwrite), hstate⟩
  · cases op with
    | inspect i => exact ⟨[], nofun, i.run_state n⟩
    | _ => cases hlook

/-! ## Sections that are built up -/

/-- A node whose section holds the entries that were given. -/
structure Node.Collects (n : Node) (key : String) (given : List (String × Json)) : Prop where
  /-- The settings stand beside the section. -/
  beside : n.kind.sectionPlace = .body → n.inner ≠ key
  held : n.look (.option n.kind.sectionPlace key) = some (merged given)

namespace Node.Collects

variable {n : Node} {key : String} {given : List (String × Json)}

/-- A spot that is spared parts from the section. -/
theorem apart (h : n.Collects key given) {s : Spot} (hs : n.kind.spares key s = true) :
    (n.spotPath s).Apart (n.spotPath (.option n.kind.sectionPlace key)) := by
  rcases spares_cases hs with hapart | ⟨⟨hbody, hinner⟩, -⟩
  · exact hapart
  · exact absurd hinner (h.beside hbody)

/-- Writes elsewhere leave a section as it is. -/
theorem puts (h : n.Collects key given) {writes : List (Spot × Json)}
    (hwrites : ∀ write ∈ writes, n.kind.spares key write.1 = true) :
    (n.puts writes).Collects key given where
  beside := by
    rw [puts_kind, puts_inner]
    exact h.beside
  held := by
    rw [puts_kind, look_puts_of_apart fun write hwrite => h.apart (hwrites write hwrite)]
    exact h.held

/-- A merge into a section is accepted, and adds to it. -/
theorem mergeSection_eq (h : n.Collects key given) {addition : Node → Json}
    {additions : List (String × Json)}
    (haddition : addition (n.opened (.option n.kind.sectionPlace key) .empty) = .obj additions) :
    n.mergeSection n.kind.sectionPlace key addition =
      .shifted ((n.opened (.option n.kind.sectionPlace key) .empty).put
          (.option n.kind.sectionPlace key)
          (.obj (Entries.merge (Entries.ofList given) additions)))
        (additions.map fun (name, _) => .taken (n.path n.kind.sectionPlace ++ [key, name])) := by
  have hmerge := n.mergeSection_eq (.option n.kind.sectionPlace key) addition
  rw [h.held] at hmerge
  simp only [haddition, getD_merged] at hmerge
  exact hmerge

/-- Merging one entry into a section collects it. -/
theorem mergeSection (h : n.Collects key given) {addition : Node → Json} {entry : String × Json}
    (haddition : addition (n.opened (.option n.kind.sectionPlace key) .empty) = .obj [entry]) :
    (n.mergeSection n.kind.sectionPlace key addition).state.Collects key (given ++ [entry]) := by
  have hkind : (n.opened (.option n.kind.sectionPlace key) .empty).kind = n.kind := by
    unfold opened
    split <;> rfl
  rw [h.mergeSection_eq haddition]
  refine ⟨?_, ?_⟩
  · change (n.opened _ _).kind.sectionPlace = .body → (n.opened _ _).inner ≠ key
    rw [hkind, opened_inner]
    exact h.beside
  · change ((n.opened _ _).put _ _).look (.option (n.opened _ _).kind.sectionPlace key) = _
    rw [hkind, look_put_self (look_opened h.held .empty), merged_concat]

/-- A node with a section can be merged into it: its fragment is an object. -/
theorem exists_opened (h : n.Collects key given) :
    ∃ members, (n.opened (.option n.kind.sectionPlace key) .empty).fragment = .obj members := by
  obtain ⟨members, hmembers, -⟩ := exists_members_of_look (look_opened h.held .empty)
  revert hmembers
  simp only [Spot.place]
  cases n.kind.sectionPlace with
  | root => exact fun hmembers => ⟨members, hmembers⟩
  | body => exact fun hmembers => Json.exists_obj_of_member hmembers Json.noConfusion
  | inner =>
    intro hmembers
    obtain ⟨body, hbody⟩ := Json.exists_obj_of_member hmembers Json.noConfusion
    exact Json.exists_obj_of_member hbody Json.noConfusion

/-- The accessor of a section adds a node that it accepts. -/
theorem run_section (h : n.Collects key given) {c : Category} (hc : c.isNamed = true)
    (v : Argument) (hv : ∀ child, v = .node child → child.IsEntry) :
    let result := (Accessor.section n.kind.sectionPlace key (.category c)).run n v
    (result.answer = .ok .self →
        v = .receiver ∧ n.kind.category = some c ∨
        v.MakesEntry key ∧ result.state.Collects key (given ++ [v.entry])) ∧
      (result.answer ≠ .ok .self → result.state = n) := by
  intro result
  cases hnull : v.isNull with
  | true =>
    have hread : result = n.readOption n.kind.sectionPlace key := if_pos hnull
    rw [hread]
    exact ⟨fun haccepted => absurd haccepted (n.readOption_ne_self (.option _ key)),
      fun _ => n.readOption_state _ _⟩
  | false =>
    have hwrite : result = (Accessor.section n.kind.sectionPlace key (.category c)).write n v :=
      if_neg (Bool.eq_false_iff.1 hnull)
    rw [hwrite, Accessor.write]
    cases hsatisfies : v.satisfies n (.category c) with
    | false => exact ⟨fun haccepted => (by cases haccepted), fun _ => rfl⟩
    | true =>
      simp only [if_true]
      cases v with
      | receiver =>
        obtain ⟨members, hmembers⟩ := h.exists_opened
        have hmerge := @mergeSection_eq _ _ _ h (Argument.snapshot · .receiver) members hmembers
        rw [hmerge]
        have hcategory : n.kind.category = some c := of_decide_eq_true hsatisfies
        exact ⟨fun _ => .inl ⟨rfl, hcategory⟩, fun hrefused => absurd rfl hrefused⟩
      | node child =>
        obtain ⟨name, body, hfragment⟩ := hv child rfl c (of_decide_eq_true hsatisfies) hc
        have hentry : (Argument.node child).entry = (name, body) := by
          simp [Argument.entry, hfragment, Json.members?]
        have hmerge := @mergeSection_eq _ _ _ h (Argument.snapshot · (.node child)) _ hfragment
        refine ⟨fun _ => .inr ⟨.inr ⟨child, rfl, hentry ▸ hfragment⟩, ?_⟩, fun hrefused => ?_⟩
        · exact hentry ▸ @mergeSection _ _ _ h (Argument.snapshot · (.node child)) _ hfragment
        · exact absurd (congrArg Outcome.answer hmerge) hrefused
      | _ => cases hsatisfies

/-- The method for suggestions adds the text to suggest for, or a suggester. -/
theorem run_suggest (h : n.Collects "suggest" given) (hplace : n.kind.sectionPlace = .root)
    (args : Arguments) (hargs : ∀ child, args.first = .node child → child.IsEntry) :
    let result := (Operation.body .suggest).run n args
    (result.answer = .ok .self →
        args.first = .receiver ∧ n.kind.category = some .suggest ∨
        args.first.MakesEntry "suggest" ∧
          result.state.Collects "suggest" (given ++ [args.first.entry])) ∧
      (result.answer ≠ .ok .self → result.state = n) := by
  intro result
  cases htext : args.first.text? with
  | none =>
    have hsection : result = (Accessor.section .root "suggest" (.category .suggest)).run n
        args.first := by
      simp only [result, Operation.run, BodyMethod.run, htext]
    rw [hsection, ← hplace]
    exact h.run_section rfl args.first hargs
  | some text =>
    have hfirst : args.first = .plain (.str text) := by
      unfold Argument.text? at htext
      split at htext
      · next s hs =>
        cases htext
        exact hs
      · cases htext
    let addition (_ : Node) : Json := .obj [("text", .str text)]
    have hmerge : result = n.mergeSection n.kind.sectionPlace "suggest" addition := by
      simp only [result, Operation.run, BodyMethod.run, htext, hplace]
      rfl
    rw [hmerge, hfirst]
    refine ⟨fun _ => .inr ⟨.inl ⟨rfl, text, rfl⟩, h.mergeSection rfl⟩, fun hrefused => ?_⟩
    refine absurd ?_ hrefused
    rw [h.mergeSection_eq (rfl : addition _ = _)]
    rfl

/-- A call adds to the section of its method when it is accepted; all else leaves a section as it
is. The text to suggest for is an entry as well. -/
theorem call (h : n.Collects key given) (hkey : key ∈ n.kind.namedSections) (method : String)
    (args : Arguments) (hargs : ∀ child, args.first = .node child → child.IsEntry) :
    let result := n.call method args
    (Entries.get? sectionMethods method = some key → result.answer = .ok .self →
        args.first = .receiver ∧ n.kind ≠ .request ∨
        args.first.MakesEntry key ∧ result.state.Collects key (given ++ [args.first.entry])) ∧
      (Entries.get? sectionMethods method ≠ some key ∨ result.answer ≠ .ok .self →
        result.state.Collects key given) := by
  intro result
  have hnamed {c : Category} (hc : c.isNamed = true) (hkind : n.kind.category = some c) :
      n.kind ≠ .request := by
    intro heq
    rw [heq] at hkind
    cases hkind
    cases hc
  cases hop : Entries.get? n.kind.methods method with
  | none =>
    have hresult : result = .failed n .noMethod := by simp only [result, Node.call, hop]
    rw [hresult]
    exact ⟨fun _ haccepted => (by cases haccepted), fun _ => h⟩
  | some op =>
    have hresult : result = op.run n args := by simp only [result, Node.call, hop]
    rw [hresult]
    rcases Kind.methods_cases hkey _ (Entries.mem_of_get? hop) with
      ⟨hmethod, rfl | ⟨hplace, rfl, rfl⟩ | ⟨c, -, hc, rfl⟩⟩ | ⟨hmethod, hspares⟩
    · obtain ⟨hstate, hanswer⟩ := n.run_noSubAggregations args
      exact ⟨fun _ haccepted => absurd haccepted hanswer, fun _ => hstate.symm ▸ h⟩
    · obtain ⟨hadds, hkeeps⟩ := h.run_suggest hplace args hargs
      refine ⟨fun _ haccepted => (hadds haccepted).imp_left (.imp_right (hnamed rfl)), ?_⟩
      exact fun hrefused => (hkeeps (hrefused.resolve_left (not_not_intro hmethod))).symm ▸ h
    · obtain ⟨hadds, hkeeps⟩ := h.run_section hc args.first hargs
      refine ⟨fun _ haccepted => (hadds haccepted).imp_left (.imp_right (hnamed hc)), ?_⟩
      exact fun hrefused => (hkeeps (hrefused.resolve_left (not_not_intro hmethod))).symm ▸ h
    · refine ⟨fun hsame => absurd hsame hmethod, fun _ => ?_⟩
      obtain ⟨writes, hwrites, hstate⟩ := Operation.run_spares hspares args
      exact hstate ▸ h.puts hwrites

end Node.Collects

/-! ## Construction -/

namespace Node

theorem look_envelope {n : Node} {body : Entries Json}
    (hfragment : n.fragment = .obj [(n.slot, .obj body)]) (key : String) :
    n.look (.option .body key) = some (Entries.get? body key) := by
  change n.fragment.look [n.slot, key] = _
  rw [hfragment, Json.look_cons _ _ (List.cons_ne_nil _ _)]
  simp [Entries.get?, Json.look_one]

theorem collects_envelope {k : AggregationKind} {n : Node} (hkind : n.kind = .aggregation k)
    {body : Entries Json} (hfragment : n.fragment = .obj [(n.slot, .obj body)])
    (hinner : n.inner ≠ "aggs") (hbody : Entries.get? body "aggs" = none) :
    n.Collects "aggs" [] where
  beside := fun _ => hinner
  held := by
    rw [hkind]
    exact (look_envelope hfragment "aggs").trans (congrArg some hbody)

end Node

/-- Whether the type of an aggregation is given when it is built. -/
def Kind.isTypedByUser : Kind → Bool
  | aggregation .genericBuckets | aggregation .genericMetrics => true
  | _ => false

/-- All sections are empty at first. The settings of a generic aggregation stand under the type that
it is given, which must not be the key of the section. -/
theorem Kind.build_collects {k : Kind} {key : String} (hkey : key ∈ k.namedSections)
    (args : Arguments) (htype : k.isTypedByUser = true → (k.build args).state.inner ≠ key) :
    (k.build args).state.Collects key [] := by
  cases k with
  | request =>
    refine ⟨fun hplace => Place.noConfusion hplace, ?_⟩
    rfl
  | aggregation k =>
    obtain rfl := List.mem_singleton.1 hkey
    have htyped (type : String) (htype : type ≠ "aggs") :
        Entries.get? [(type, Json.obj [])] "aggs" = none := by
      simp [Entries.get?, htype]
    have hown : k.type ≠ "aggs" := by cases k <;> decide
    cases k with
    | generic | filter => exact Node.collects_envelope rfl rfl hown rfl
    | genericBuckets | genericMetrics =>
      exact Node.collects_envelope rfl rfl (htype rfl) (htyped _ (htype rfl))
    | _ => exact Node.collects_envelope rfl rfl hown (htyped _ hown)
  | _ => cases hkey

end SearchBuilder
