import SearchBuilder.Proofs.Document.Soundness

/-!
# The catalog and the invariant

Every method in the table of a concrete kind suits the kind (`Kind.suits_methods`), and what is
built for a concrete kind is of good shape (`Kind.build_sound`). So a call on a node of good shape
leaves one (`Node.call_sound`).

Both go through the catalog kind by kind; everything about what methods do is in the theorems about
operations.
-/

namespace SearchBuilder

open Outcome

variable {safe : Prop}

/-! ## Methods -/

namespace Kind

/-- The methods of a concrete kind suit it. -/
theorem suits_methods {k : Kind} (h : k.isConcrete = true) :
    ∀ entry ∈ k.methods, entry.2.suits k = true := by
  cases k with
  | query k => cases k <;> decide
  | filter k => cases k <;> decide
  | score k => cases k <;> decide
  | aggregation k => cases k <;> decide
  | facet k => cases k <;> decide
  | suggester k => cases k <;> first | decide | cases h
  | plain => cases h
  | _ => decide

end Kind

/-- What a call by a method's name asks of its arguments: the method is there, and its operation
allows them. -/
def Node.Allows (n : Node) (method : String) (args : Arguments) : Prop :=
  ∃ op, Entries.get? n.kind.methods method = some op ∧ op.Allows n.kind args

/-- A call on a node of good shape is sound, if what it asks for is given. -/
theorem Node.call_sound {n : Node} (hn : n.Shaped safe) {method : String} {args : Arguments}
    (hargs : args.Show Child.Genuine) (hallows : safe → n.Allows method args) :
    (n.call method args).Sound safe := by
  unfold Node.call
  split
  · next op hop =>
    refine Operation.run_sound hn (Kind.suits_methods hn.concrete _ (Entries.mem_of_get? hop)) hargs
      fun hsafe => ?_
    obtain ⟨op', hop', hallowed⟩ := hallows hsafe
    cases hop.symm.trans hop'
    exact hallowed
  · next hnone =>
    refine sound_failed hn fun hsafe => ?_
    obtain ⟨op, hop, -⟩ := hallows hsafe
    rw [hnone] at hop
    cases hop

/-! ## Construction -/

/-- What is built is of good shape and, with `safe`, only an argument is blamed. -/
structure Outcome.BuildsSound (safe : Prop) (o : Outcome Node) : Prop where
  shaped : ∀ answer, o.answer = .ok answer → o.state.Shaped safe
  harmless : safe → ∀ fault, o.answer = .error fault → ∃ cause, fault = .misuse cause

namespace Outcome

theorem Sound.builds {o : Outcome Node} (h : o.Sound safe) : o.BuildsSound safe where
  shaped := fun _ _ => h.shaped
  harmless := h.harmless

theorem builds_chained {n : Node} (h : n.Shaped safe) : (chained n).BuildsSound safe :=
  (sound_chained h).builds

theorem builds_refused (n : Node) (cause : Misuse) : (refused n cause).BuildsSound safe where
  shaped := by
    intro answer hanswer
    cases hanswer
  harmless := by
    intro _ fault hfault
    cases hfault
    exact ⟨cause, rfl⟩

end Outcome

/-- A single member fits if no key is required and its own value does not matter. -/
theorem Fits.single {slots : Slots} (h : ∀ slot ∈ slots, slot.2.isRequired = false) {key : String}
    (hkey : slots.form key = .any) (value : Json) : Fits slots [(key, value)] := by
  have hset : Fits slots (Entries.set [] key value) :=
    (Fits.empty h).set (by rw [hkey]; exact .any _)
  exact hset

namespace Kind

/-- The name of the field that a construction is given, for kinds that are about a field. -/
def givenField (k : Kind) (args : Arguments) : String :=
  match k with
  | query .terms | filter .terms => (args.first ["terms"]).name
  | _ => args.first.name

end Kind

namespace Node

/-- An envelope of a kind that keeps nothing under an inner key. -/
theorem envelope_shaped {k : Kind} (hconcrete : k.isConcrete = true) (hsealed : k.isSealed = true)
    {slot : String} (hslot : k.admitsSlot slot = true) {body : Entries Json}
    (hfits : Fits k.bodySlots body) (hnone : (k.hasInner || k.holdsTerms) = false)
    {inner : String} (hinner : k.bodySlots.form inner = .any) (hfree : inner ∉ k.bodyKeys) :
    ({ Node.envelope k slot body with inner } : Node).Shaped safe :=
  .of_envelope hconcrete hsealed hslot hfits (fun _ => .of_none hnone inner body) hinner
    fun _ => hfree

/-- An envelope of a kind that keeps options under an inner key. -/
theorem nestedEnvelope_shaped {k : Kind} (hconcrete : k.isConcrete = true)
    (hsealed : k.isSealed = true) {slot inner : String} (hslot : k.admitsSlot slot = true)
    {options : Entries Json} (hrequired : ∀ slot ∈ k.bodySlots, slot.2.isRequired = false)
    (hterms : k.holdsTerms = false) (hfits : Fits k.innerSlots options)
    (hinner : k.bodySlots.form inner = .any) (hfree : safe → inner ∉ k.bodyKeys) :
    (Node.nestedEnvelope k slot inner options).Shaped safe := by
  refine .of_envelope hconcrete hsealed hslot (.single hrequired hinner _) (fun _ => ⟨fun _ => ?_,
    fun hhas => ?_⟩) hinner hfree
  · exact ⟨options, by simp [Entries.get?], hfits⟩
  · exact absurd (hterms.symm.trans hhas) Bool.false_ne_true

/-- An envelope of a kind that keeps a list of terms under the name of a field. -/
theorem terms_shaped {k : Kind} (hconcrete : k.isConcrete = true) (hsealed : k.isSealed = true)
    {slot field : String} (hslot : k.admitsSlot slot = true) (hslots : k.bodySlots = [])
    (hinner : k.hasInner = false) (items : List Json) (hfree : safe → field ∉ k.bodyKeys) :
    ({ Node.envelope k slot [(field, .arr items)] with inner := field } : Node).Shaped safe := by
  refine .of_envelope hconcrete hsealed hslot (by rw [hslots]; exact .of_nil _)
    (fun _ => ⟨fun hhas => ?_, fun _ => ?_⟩) (by rw [hslots]; rfl) hfree
  · exact absurd (hinner.symm.trans hhas) Bool.false_ne_true
  · exact ⟨items, by simp [Entries.get?]⟩

/-- A node without an envelope has good shape if its members fit. -/
theorem bare_shaped {k : Kind} (hconcrete : k.isConcrete = true) (hbody : k.hasBody = false)
    (hslot : k.admitsSlot "" = true) {members : Entries Json} (hfits : Fits k.rootSlots members)
    (hinner : k.bodySlots.form "" = .any) (hfree : "" ∉ k.bodyKeys) :
    ({ kind := k, fragment := .obj members } : Node).Shaped safe where
  concrete := hconcrete
  root := fun _ => ⟨members, rfl, hfits⟩
  body := fun hhas => absurd (hbody.symm.trans hhas) Bool.false_ne_true
  sealed := by
    intro hsealed
    simp only [Kind.hasBody, Bool.or_eq_false_iff] at hbody
    exact absurd (hbody.1.symm.trans hsealed) Bool.false_ne_true
  slot := hslot
  inner := hinner
  free := fun _ => hfree

/-- A body that stands beside other members. -/
theorem beside_shaped {k : Kind} (hconcrete : k.isConcrete = true) (hsealed : k.isSealed = false)
    (hg : k.hasBody = true) {slot inner : String} (hslot : k.admitsSlot slot = true)
    (hroot : ∀ slot ∈ k.rootSlots, slot.2.isRequired = false) {body : Entries Json}
    (hfits : Fits k.bodySlots body) (hheld : safe → k.Holds inner body)
    (hinner : k.bodySlots.form inner = .any) (hfree : safe → inner ∉ k.bodyKeys) :
    ({ Node.envelope k slot body with inner } : Node).Shaped safe where
  concrete := hconcrete
  root := fun _ => ⟨_, rfl, .single hroot (Kind.rootSlots_form_slot hg hslot) _⟩
  body := by
    intro _
    refine ⟨body, ?_, hfits, hheld⟩
    simp [Node.envelope, Node.valueAt, Json.member, Entries.get?]
  sealed := fun hs => absurd (hsealed.symm.trans hs) Bool.false_ne_true
  slot := hslot
  inner := hinner
  free := hfree

end Node

/-! ### Queries and filters -/

theorem FieldMethod.exists_termsOf (n : Node) (v : Argument) :
    ∃ items, FieldMethod.termsOf n v = .arr items := by
  unfold FieldMethod.termsOf
  split <;> exact ⟨_, rfl⟩

/-- An accessor that is called while a node is built. -/
theorem Operation.accessor_sound {n : Node} {k : Kind} (hn : n.Shaped safe) (hkind : n.kind = k)
    {a : Accessor} (hsuits : a.suits k = true) {v : Argument} (hv : v.Shows Child.Genuine) :
    ((Operation.accessor a).run n (.one v)).Sound safe :=
  a.run_sound hn (by rw [hkind]; exact hsuits) hv

/-- Two accessors in a row are sound. -/
theorem Operation.accessors_sound {n : Node} {k : Kind} (hn : n.Shaped safe) (hkind : n.kind = k)
    {a a' : Accessor} (hsuits : a.suits k = true) (hsuits' : a'.suits k = true) {v v' : Argument}
    (hv : v.Shows Child.Genuine) (hv' : v'.Shows Child.Genuine) :
    (((Operation.accessor a).run n (.one v)).andThen fun m =>
      (Operation.accessor a').run m (.one v')).Sound safe := by
  refine (Operation.accessor_sound hn hkind hsuits hv).andThen fun m hm hshaped => ?_
  refine Operation.accessor_sound hshaped ?_ hsuits' hv'
  rw [hm, Operation.run_kind, hkind]

namespace QueryKind

/-- A query without an inner key, around a body that fits. -/
theorem node_shaped {k : QueryKind} (hk : (Kind.query k).isConcrete = true) {body : Entries Json}
    (hfits : Fits k.slots body)
    (hnone : ((Kind.query k).hasInner || (Kind.query k).holdsTerms) = false)
    (hinner : (Kind.query k).bodySlots.form "" = .any) : (k.node body).Shaped safe := by
  refine Node.envelope_shaped hk rfl (by simp [Kind.admitsSlot]) hfits hnone hinner ?_
  cases k <;> decide

/-- A query that keeps its options with a field. -/
theorem fieldNode_shaped {k : QueryKind} (hk : (Kind.query k).isConcrete = true)
    (hinner : (Kind.query k).hasInner = true) (field : String) (options : Entries Json) :
    (k.fieldNode field options).Shaped safe := by
  refine Node.nestedEnvelope_shaped hk rfl (by simp [Kind.admitsSlot]) ?_ ?_ ?_ ?_ fun _ => ?_
  all_goals cases k <;> cases hinner
  all_goals first | exact .of_nil _ | rfl | exact List.not_mem_nil | exact fun _ h => by cases h

/-- A query of a concrete kind is built in good shape. -/
theorem build_sound {k : QueryKind} (hk : (Kind.query k).isConcrete = true) {args : Arguments}
    (hargs : args.Show Child.Genuine)
    (hname : safe → (Kind.query k).givenField args ∉ (Kind.query k).bodyKeys) :
    (k.build args).BuildsSound safe := by
  have hempty (h : (Kind.query k).hasInner = false) (h' : (Kind.query k).holdsTerms = false)
      (hslots : ∀ slot ∈ k.slots, slot.2.isRequired = false) : (k.node []).Shaped safe :=
    node_shaped hk (.empty hslots) (by rw [h, h']; rfl) (by cases k <;> rfl)
  have hshows (index : Nat) (name : String) : (args.get index name).Shows Child.Genuine :=
    hargs.get index name
  cases k with
  | generic => cases hk
  | matchAll | bool | disMax | constantScore | functionScore =>
    exact builds_chained (hempty rfl rfl (by decide))
  | term | spanTerm | wordStart | wildcard | text | range =>
    exact builds_chained (fieldNode_shaped rfl rfl _ _)
  | terms =>
    obtain ⟨items, hitems⟩ :=
      FieldMethod.exists_termsOf (QueryKind.terms.node []) (args.get 1 "terms")
    simp only [build, hitems]
    exact builds_chained (Node.terms_shaped rfl rfl (by decide) rfl rfl items hname)
  | multiField =>
    simp only [build]
    split
    · refine builds_chained (node_shaped rfl (.of_forms fun slot hslot => ?_) rfl rfl)
      rw [List.mem_singleton.1 hslot]
      exact .list _
    · exact builds_refused _ _
  | ids =>
    simp only [build]
    split
    · exact builds_chained (node_shaped rfl (.sole (.list _)) rfl rfl)
    · exact builds_refused _ _
  | queryString | nested =>
    exact builds_chained (node_shaped rfl (.single (by decide) rfl _) rfl rfl)
  | filtered | spanNot | spanFirst =>
    exact (Operation.accessors_sound (hempty rfl rfl (by decide)) rfl (by decide) (by decide)
      (hshows 0 _) (hshows 1 _)).builds
  | spanNear | spanOr =>
    have hclauses {k : QueryKind} (h : k.slots = [("clauses", .many .spanQuery true)]) :
        Fits k.slots [("clauses", .arr [])] := by
      rw [h]
      exact .sole (.many fun _ hitem => absurd hitem List.not_mem_nil)
    exact (Operation.accessor_sound (node_shaped rfl (hclauses rfl) rfl rfl) rfl (by decide)
      (hargs.first [])).builds

end QueryKind

namespace FilterKind

/-- A filter without an inner key, around a body that fits. -/
theorem node_shaped {k : FilterKind} (hk : (Kind.filter k).isConcrete = true)
    {body : Entries Json} (hfits : Fits k.slots body)
    (hnone : ((Kind.filter k).hasInner || (Kind.filter k).holdsTerms) = false) {inner : String}
    (hinner : (Kind.filter k).bodySlots.form inner = .any) :
    ({ k.node body with inner } : Node).Shaped safe := by
  refine Node.envelope_shaped hk rfl (by simp [Kind.admitsSlot]) hfits hnone hinner ?_
  cases k <;> first | exact List.not_mem_nil | cases hnone

/-- A filter that keeps its options with a field. -/
theorem fieldNode_shaped {k : FilterKind} (hk : (Kind.filter k).isConcrete = true)
    (hinner : (Kind.filter k).hasInner = true) {field : String}
    (hname : safe → field ∉ (Kind.filter k).bodyKeys) :
    (Node.nestedEnvelope (.filter k) k.discriminator field []).Shaped safe := by
  refine Node.nestedEnvelope_shaped hk rfl (by simp [Kind.admitsSlot]) ?_ ?_ ?_ ?_ hname
  all_goals cases k <;> cases hinner
  all_goals first | exact .of_nil _ | rfl | exact fun _ h => by cases h

theorem build_sound {k : FilterKind} (hk : (Kind.filter k).isConcrete = true) {args : Arguments}
    (hargs : args.Show Child.Genuine)
    (hname : safe → (Kind.filter k).givenField args ∉ (Kind.filter k).bodyKeys) :
    (k.build args).BuildsSound safe := by
  have hfirst : args.first.Shows Child.Genuine := hargs.first []
  cases k with
  | generic => cases hk
  | matchAll | bool | geoDistance =>
    exact builds_chained (node_shaped rfl (.empty (by decide)) rfl rfl)
  | term | wordStart | «exists» | missing | type =>
    exact builds_chained (node_shaped rfl (.single (by decide) rfl _) rfl rfl)
  | terms =>
    obtain ⟨items, hitems⟩ :=
      FieldMethod.exists_termsOf (FilterKind.terms.node []) (args.get 1 "terms")
    simp only [build, hitems]
    exact builds_chained (Node.terms_shaped rfl rfl (by decide) rfl rfl items hname)
  | range => exact builds_chained (fieldNode_shaped rfl rfl hname)
  | geoBox => exact builds_chained (fieldNode_shaped rfl rfl hname)
  | ids =>
    simp only [build]
    split
    · next names hnames =>
      refine builds_chained (node_shaped rfl (.of_forms fun slot hslot => ?_) rfl rfl)
      simp only [slots, List.mem_cons, List.not_mem_nil, or_false] at hslot
      rcases hslot with rfl | rfl
      · exact .list _
      · exact .absent rfl
    · exact builds_refused _ _
  | query | not =>
    exact (Operation.accessor_sound (node_shaped rfl (.empty (by decide)) rfl rfl) rfl
      (by decide) hfirst).builds
  | and | or =>
    have hparts {k : FilterKind} (h : k.slots = [("filters", .filters true)]) :
        Fits k.slots [("filters", .arr [])] := by
      rw [h]
      exact .sole (.many fun _ hitem => absurd hitem List.not_mem_nil)
    exact (Operation.accessor_sound (node_shaped rfl (hparts rfl) rfl rfl) rfl (by decide)
      hfirst).builds

end FilterKind

/-! ### Score functions -/

theorem ScoreKind.build_sound {k : ScoreKind} (hk : (Kind.score k).isConcrete = true)
    {args : Arguments} (hargs : args.Show Child.Genuine)
    (hname : safe → (Kind.score k).givenField args ∉ (Kind.score k).bodyKeys) :
    (k.build args).BuildsSound safe := by
  have hbare {k : ScoreKind} (hk : (Kind.score k).isConcrete = true)
      (hbody : (Kind.score k).hasBody = false) {members : Entries Json}
      (hfits : Fits [("filter", .filter)] members) : (k.bareNode members).Shaped safe := by
    refine Node.bare_shaped hk hbody ?_ hfits rfl ?_
    all_goals cases k <;> first | rfl | exact List.not_mem_nil | cases hbody
  have hbeside {k : ScoreKind} (hk : (Kind.score k).isConcrete = true)
      (hbody : (Kind.score k).hasBody = true) {slot : String}
      (hslot : (Kind.score k).admitsSlot slot = true)
      (hnone : ((Kind.score k).hasInner || (Kind.score k).holdsTerms) = false)
      (body : Entries Json) : (k.node slot body).Shaped safe := by
    refine Node.beside_shaped hk rfl hbody hslot ?_ (.of_nil body) (fun _ => .of_none hnone "" body)
      rfl fun _ => ?_
    · exact (by decide : ∀ slot ∈ [("filter", Form.filter)], slot.2.isRequired = false)
    · cases k <;> first | exact List.not_mem_nil | cases hnone
  cases k with
  | generic => cases hk
  | bare => exact builds_chained (hbare rfl rfl (.empty (by decide)))
  | boostFactor => exact builds_chained (hbare rfl rfl (.single (by decide) rfl _))
  | script =>
    exact (Operation.accessor_sound (hbeside rfl rfl (by decide) rfl []) rfl (by decide)
      (hargs.first [])).builds
  | random => exact builds_chained (hbeside rfl rfl (by decide) rfl [])
  | fieldValue => exact builds_chained (hbeside rfl rfl (by decide) rfl _)
  | decay =>
    refine builds_chained (Node.beside_shaped rfl rfl rfl (by decide) (by decide) (.of_nil _)
      (fun _ => ⟨fun _ => ⟨[], ?_, .of_nil _⟩, fun hhas => ?_⟩) rfl hname)
    · simp [Entries.get?]
    · cases hhas

/-! ### Named kinds -/

theorem AggregationKind.build_sound {k : AggregationKind}
    (hk : (Kind.aggregation k).isConcrete = true) (args : Arguments) :
    (k.build args).BuildsSound safe := by
  have hnested {k : AggregationKind} (hk : (Kind.aggregation k).isConcrete = true)
      (name : String) :
      (Node.nestedEnvelope (.aggregation k) name k.type []).Shaped safe := by
    refine Node.nestedEnvelope_shaped hk rfl rfl ?_ rfl (.empty ?_) ?_ fun _ => ?_
    all_goals cases k <;> decide
  cases k with
  | generic | genericBuckets | genericMetrics => cases hk
  | filter =>
    exact builds_chained (Node.envelope_shaped rfl rfl rfl (.empty (by decide)) rfl rfl (by decide))
  | _ => exact builds_chained (hnested rfl _)

theorem FacetKind.build_sound {k : FacetKind} (hk : (Kind.facet k).isConcrete = true)
    (args : Arguments) : (k.build args).BuildsSound safe := by
  have hnested {k : FacetKind} (hk : (Kind.facet k).isConcrete = true) {type : String}
      (htype : k.type? = some type) (name : String) :
      (Node.nestedEnvelope (.facet k) name type []).Shaped safe := by
    refine Node.nestedEnvelope_shaped hk rfl rfl ?_ rfl (.empty ?_) ?_ fun _ => ?_
    all_goals cases k <;> cases htype <;> decide
  cases k with
  | generic => cases hk
  | terms | statistical | histogram => exact builds_chained (hnested rfl rfl _)
  | filter | query =>
    exact builds_chained (Node.envelope_shaped rfl rfl rfl (.empty (by decide)) rfl rfl (by decide))

theorem SuggesterKind.build_sound {k : SuggesterKind} (hk : (Kind.suggester k).isConcrete = true)
    (args : Arguments) : (k.build args).BuildsSound safe := by
  have hnested {k : SuggesterKind} (hk : (Kind.suggester k).isConcrete = true) (name : String) :
      (Node.nestedEnvelope (.suggester k) name k.type []).Shaped safe := by
    refine Node.nestedEnvelope_shaped hk rfl rfl ?_ rfl (.empty ?_) ?_ fun _ => ?_
    all_goals cases k <;> decide
  cases k with
  | generic | genericContext => cases hk
  | term | phrase | completion => exact builds_chained (hnested rfl _)

/-! ### Other kinds -/

theorem Node.empty_shaped {k : Kind} (hconcrete : k.isConcrete = true) (hopen : k.isOpen = true)
    (hbody : k.hasBody = false) : ({ kind := k, fragment := .empty } : Node).Shaped safe := by
  refine Node.bare_shaped hconcrete hbody ?_ (.empty ?_) ?_ ?_
  all_goals cases k <;> cases hopen
  all_goals first | decide | (rename_i k; cases k <;> first | decide | cases hbody)

theorem buildPoint_sound (args : Arguments) : (buildPoint args).BuildsSound safe := by
  refine builds_chained ?_
  refine ⟨rfl, fun hne => absurd rfl hne, fun hbody => ?_, fun hsealed => ?_, rfl, rfl, fun _ => ?_⟩
  · cases hbody
  · cases hsealed
  · exact List.not_mem_nil

theorem buildShape_sound {args : Arguments} (hargs : args.Show Child.Genuine) :
    (buildShape args).BuildsSound safe := by
  have hempty : ({ kind := .shape, fragment := .empty } : Node).Shaped safe :=
    Node.empty_shaped rfl rfl rfl
  have htyped := Operation.accessor_sound hempty rfl
    (by decide : (Accessor.choice .root "type" Words.shapeTypes .lower).suits .shape = true)
    (hargs.first ["coordinates"])
  refine Sound.builds ?_
  unfold buildShape
  refine htyped.andThen fun m hm hshaped => ?_
  refine Node.freely_sound hshaped ?_ _
  rw [show m.kind = .shape by rw [hm, Operation.run_kind]]
  decide

theorem buildRescore_sound {args : Arguments} (hargs : args.Show Child.Genuine) :
    (buildRescore args).BuildsSound safe := by
  have hempty : (Node.envelope .rescore "query" []).Shaped safe :=
    Node.beside_shaped rfl rfl rfl (by decide) (by decide) (.empty (by decide))
      (fun _ => .of_none rfl "" []) rfl fun _ => List.not_mem_nil
  exact (Operation.accessors_sound (k := .rescore) hempty rfl (by decide) (by decide)
    (hargs.get 0 "window_size") (hargs.get 1 "query")).builds

/-- What is built for a concrete kind is of good shape. With `safe` the field that it is given must
not have the name of an option beside it. -/
theorem Kind.build_sound {k : Kind} (hk : k.isConcrete = true) {args : Arguments}
    (hargs : args.Show Child.Genuine) (hname : safe → k.givenField args ∉ k.reservedFields) :
    (k.build args).BuildsSound safe := by
  cases k with
  | query k => exact QueryKind.build_sound hk hargs hname
  | filter k => exact FilterKind.build_sound hk hargs hname
  | score k => exact ScoreKind.build_sound hk hargs hname
  | aggregation k => exact AggregationKind.build_sound hk args
  | facet k => exact FacetKind.build_sound hk args
  | suggester k => exact SuggesterKind.build_sound hk args
  | generator | request => exact builds_chained (Node.empty_shaped rfl rfl rfl)
  | geoPoint => exact buildPoint_sound args
  | shape => exact buildShape_sound hargs
  | indexedShape =>
    exact builds_chained (Node.bare_shaped rfl rfl rfl (.of_nil _) rfl List.not_mem_nil)
  | highlight =>
    exact (HighlightMethod.run_sound (m := .fields) (Node.empty_shaped rfl rfl rfl) rfl _).builds
  | sort => exact builds_chained (Node.clause_shaped _ _ [])
  | scriptField =>
    exact builds_chained (Node.envelope_shaped rfl rfl rfl (.empty (by decide)) rfl rfl (by decide))
  | rescore => exact buildRescore_sound hargs
  | plain => cases hk

end SearchBuilder
