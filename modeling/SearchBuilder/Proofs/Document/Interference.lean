import Mathlib.Data.List.Pairwise
import SearchBuilder.Proofs.Document.Grammar
import SearchBuilder.Proofs.Document.Renaming

/-!
# Accessors do not interfere

An accessor only reads when it is called with no arguments or with nulls. Those of one kind have
spots of their own, as a look through the catalog shows (`Kind.apart_methods`), so a value that one
of them stores is read back by it and by no other (`Node.accessors_independent`). A rename is a
setter too; it moves members and keeps the settings, which is all that the other accessors read.
-/

namespace SearchBuilder

/-! ## Accessors -/

/-- Arguments that are all null. -/
def Arguments.IsNull (args : Arguments) : Prop :=
  (∀ a ∈ args.positional, a.isNull = true) ∧ ∀ entry ∈ args.named, entry.2.isNull = true

namespace Arguments.IsNull

variable {args : Arguments}

theorem get (h : args.IsNull) (index : Nat) (name : String) :
    (args.get index name).isNull = true :=
  (args.get_cases index name).meets (P := fun a => a.isNull = true) rfl h.1 h.2

theorem first (h : args.IsNull) (others : List String) : (args.first others).isNull = true :=
  (args.first_cases others).meets (P := fun a => a.isNull = true) rfl h.1 h.2

end Arguments.IsNull

/-- An own method of a kind that only reads when it is called with no arguments or with nulls. -/
structure Kind.IsAccessor (k : Kind) (method : String) : Prop where
  own : ∃ op, Entries.get? k.ownMethods method = some op
  reads : ∀ (n : Node) (args : Arguments), n.kind = k → args.IsNull →
    (n.call method args).state = n

/-- Whether an operation only reads when it is given nothing. -/
def Operation.onlyReads : Operation → Bool
  | .decay (.choose _) | .sort (.direction _) | .suggestion .linearSmoothing
  | .suggestion .laplaceSmoothing | .suggestion .backoffSmoothing => false
  | _ => true

/-- An operation that only reads without an argument leaves the node as it is. -/
theorem Operation.run_null {op : Operation} (hop : op.onlyReads = true) {args : Arguments}
    (hargs : args.IsNull) (n : Node) : (op.run n args).state = n := by
  have hfirst (others : List String) : (args.first others).isNull = true := hargs.first others
  have hget (index : Nat) (name : String) : (args.get index name).isNull = true :=
    hargs.get index name
  cases op with
  | accessor a =>
    simp only [run, Accessor.run, hfirst, if_true]
    cases a with
    | heldNames => exact n.readHeld_state _ _
    | _ => exact n.readOption_state _ _
  | field f =>
    cases f with
    | rename | renameIfSet => simp only [run, FieldMethod.run, hfirst, if_true]; rfl
    | value =>
      simp only [run, FieldMethod.run, Accessor.run, hfirst, if_true]
      exact n.readOption_state _ _
    | terms =>
      simp only [run, FieldMethod.run, hfirst, if_true]
      exact n.readHeld_state _ _
    | fieldList =>
      simp only [run, FieldMethod.run, hfirst, if_true]
      exact n.readOption_state _ _
  | geo g =>
    cases g <;> simp only [run, GeoMethod.run, hfirst, if_true] <;>
      first | exact n.readPart_state _ | exact n.readOption_state _ _
  | decay d =>
    cases d with
    | choose => cases hop
    | current => rfl
  | bucket b =>
    cases b <;> simp only [run, BucketMethod.run, hfirst, hget, Bool.and_self, if_true] <;>
      first | exact n.readOption_state _ _ | rfl
  | highlight m =>
    cases m <;> simp only [run, HighlightMethod.run, hfirst, if_true] <;>
      first | exact n.readOption_state _ _ | exact n.readThrough_state _
  | sort m =>
    cases m with
    | direction => cases hop
    | field => simp only [run, SortMethod.run, hfirst, if_true]; rfl
    | geoDistance | script =>
      simp only [run, SortMethod.run, hfirst, if_true]
      exact n.readThrough_state _
  | suggestion g =>
    cases g with
    | linearSmoothing | laplaceSmoothing | backoffSmoothing => cases hop
    | changeTags =>
      simp only [run, SuggestionMethod.run, hget, Bool.and_self, if_true]
      exact n.readOption_state _ _
    | fuzzy =>
      simp only [run, SuggestionMethod.run, hfirst, if_true]
      exact n.readOption_state _ _
    | fuzzyOption key =>
      simp only [run, SuggestionMethod.run, hfirst, if_true]
      split
      · rfl
      · exact n.readThrough_state _
  | body b =>
    have htext (others : List String) : (args.first others).text? = none := by
      have hnull := hfirst others
      cases hv : args.first others with
      | plain j =>
        rw [hv] at hnull
        cases j <;> first | rfl | cases hnull
      | _ => rfl
    cases b with
    | sort | indexBoost =>
      simp only [run, BodyMethod.run, hfirst, if_true]
      exact n.readOption_state _ _
    | source =>
      simp only [run, BodyMethod.run, hget, Bool.and_self, if_true]
      exact n.readOption_state _ _
    | suggest =>
      simp only [run, BodyMethod.run, htext, Accessor.run, hfirst, if_true]
      exact n.readOption_state _ _
  | inspect i => exact i.run_state n

namespace Kind

variable {k : Kind} {method : String} {op : Operation}

theorem get?_methods (h : Entries.get? k.ownMethods method = some op) :
    Entries.get? k.methods method = some op := Entries.get?_append_left h _

/-- A method that only reads when it is called without an argument is an accessor. -/
theorem isAccessor_of_onlyReads (hop : Entries.get? k.ownMethods method = some op)
    (hreads : op.onlyReads = true) : k.IsAccessor method where
  own := ⟨op, hop⟩
  reads := by
    rintro n args rfl hargs
    unfold Node.call
    rw [get?_methods hop]
    exact Operation.run_null hreads hargs n

/-- An accessor is no choice of a curve, of a direction or of a smoothing model. -/
theorem IsAccessor.onlyReads (h : k.IsAccessor method)
    (hop : Entries.get? k.ownMethods method = some op) : op.onlyReads = true := by
  have hstill (n : Node) (hn : n.kind = k) : (op.run n {}).state = n := by
    have hcall := h.reads n {} hn ⟨by simp, by simp⟩
    unfold Node.call at hcall
    rw [hn, get?_methods hop] at hcall
    exact hcall
  have hsmooth {settings : Json} (hwrite : op.run (.nestedEnvelope k "" "" []) {} =
      (Node.nestedEnvelope k "" "" []).writeOption .inner "smoothing" settings) : False := by
    have hnode := hstill (.nestedEnvelope k "" "" []) rfl
    rw [hwrite] at hnode
    cases congrArg Node.fragment hnode
  cases op with
  | decay d =>
    cases d with
    | current => rfl
    | choose curve =>
      have hempty : curve = "" :=
        congrArg Node.slot (hstill { kind := k, fragment := .empty } rfl)
      have hother : curve = "other" :=
        congrArg Node.slot (hstill { kind := k, fragment := .empty, slot := "other" } rfl)
      exact absurd (hempty.symm.trans hother) (by decide)
  | sort m =>
    cases m with
    | direction word => cases congrArg Node.fragment (hstill (.envelope k "" []) rfl)
    | _ => rfl
  | suggestion g =>
    cases g with
    | linearSmoothing | laplaceSmoothing | backoffSmoothing => exact (hsmooth rfl).elim
    | _ => rfl
  | _ => rfl

/-! ## Kinds and spots -/

/-- The kinds whose accessors do not interfere. -/
def isIndependent (k : Kind) : Bool :=
  k.isConcrete && match k with
    | suggester .completion | geoPoint | highlight | sort | request => false
    | _ => true

end Kind

/-- Whether two spots are different, where no name is in the way of an option. -/
def Spot.differs : Spot → Spot → Bool
  | .option .root key, .option .root key' | .option .body key, .option .body key'
  | .option .inner key, .option .inner key' => key != key'
  | .option .inner _, .field | .field, .option .inner _ | .field, .field => false
  | _, _ => true

/-- The names under which the same accessor is known. -/
def aliases : List (List String) :=
  [["value", "term", "prefix"], ["add", "queries"], ["function", "functions"],
    ["clauses", "add_clause"], ["filters", "add"], ["aggregation", "agg"]]

/-- Whether two methods are the same accessor. -/
def areAliases (method other : String) : Bool :=
  aliases.any fun names => names.contains method && names.contains other

theorem Spot.differs_comm (s t : Spot) : s.differs t = t.differs s := by
  cases s with
  | field => cases t with
    | field => rfl
    | option place => cases place <;> rfl
  | option place key => cases t with
    | field => cases place <;> rfl
    | option place' key' =>
      cases place <;> cases place' <;> first | rfl | exact bne_comm

/-- Whether two methods have different spots, unless they are the same accessor or none. -/
def keepsApart (entry other : String × Operation) : Bool :=
  ((entry.2.spots?.getD []).all fun s => (other.2.spots?.getD []).all s.differs) ||
    areAliases entry.1 other.1 || !(entry.2.onlyReads && other.2.onlyReads)

theorem keepsApart_comm (entry other : String × Operation) :
    keepsApart entry other = keepsApart other entry := by
  have haliases : areAliases entry.1 other.1 = areAliases other.1 entry.1 := by
    unfold areAliases
    congr 1
    funext names
    exact Bool.and_comm _ _
  have hdiffers (first second : List Spot) (h : first.all (fun s => second.all s.differs) = true) :
      second.all (fun t => first.all t.differs) = true := by
    refine List.all_eq_true.2 fun t ht => List.all_eq_true.2 fun s hs => ?_
    rw [Spot.differs_comm]
    exact List.all_eq_true.1 (List.all_eq_true.1 h s hs) t ht
  unfold keepsApart
  rw [haliases, Bool.and_comm entry.2.onlyReads]
  congr 2
  exact Bool.eq_iff_iff.2 ⟨hdiffers _ _, hdiffers _ _⟩

namespace Kind

/-- Any two methods of a kind's own write apart from one another, or are the same accessor. -/
theorem keepsApart_methods (k : Kind) : k.ownMethods.Pairwise (keepsApart · · = true) := by
  cases k with
  | query k => cases k <;> decide +kernel
  | filter k => cases k <;> decide +kernel
  | score k => cases k <;> decide +kernel
  | aggregation k => cases k <;> decide +kernel
  | facet k => cases k <;> decide +kernel
  | suggester k => cases k <;> decide +kernel
  | _ => decide +kernel

/-- Accessors of a kind have spots of their own. -/
theorem differs_methods {k : Kind} {method other : String} {op op' : Operation}
    (hmethod : k.IsAccessor method) (hother : k.IsAccessor other) (hne : other ≠ method)
    (haliases : areAliases method other = false)
    (hop : Entries.get? k.ownMethods method = some op)
    (hop' : Entries.get? k.ownMethods other = some op') {spots spots' : List Spot}
    (hspots : op.spots? = some spots) (hspots' : op'.spots? = some spots') :
    ∀ s ∈ spots, ∀ t ∈ spots', s.differs t = true := by
  have hsymm : Std.Symm (keepsApart · · = true) :=
    ⟨fun entry other h => (keepsApart_comm other entry).trans h⟩
  have hapart := k.keepsApart_methods.forall (Entries.mem_of_get? hop)
    (Entries.mem_of_get? hop') fun heq => hne (congrArg Prod.fst heq).symm
  rw [keepsApart, haliases, hmethod.onlyReads hop, hother.onlyReads hop', hspots, hspots'] at hapart
  simp only [Option.getD_some, Bool.or_false, Bool.and_self, Bool.not_true] at hapart
  exact fun s hs t ht => List.all_eq_true.1 (List.all_eq_true.1 hapart s hs) t ht

end Kind

/-! ## Nodes where no name is in the way -/

/-- The body does not stand under the key of an option, and neither does the field. -/
structure Node.Clear (n : Node) : Prop where
  slot : n.slot ∉ n.kind.besideKeys
  inner : n.inner ∉ n.kind.optionKeys

namespace Node

variable {n m : Node}

/-- Different spots are apart. -/
theorem Clear.apart (h : n.Clear) {s t : Spot} (hs : n.kind.clears s = true)
    (ht : n.kind.clears t = true) (hst : s.differs t = true) :
    (n.spotPath s).Apart (n.spotPath t) := by
  have hroot {key : String} (hkey : n.kind.clears (.option .root key) = true) (rest : Path) :
      Path.Apart [key] (n.slot :: rest) :=
    Path.apart_cons.2 fun heq => absurd (heq ▸ List.contains_iff_mem.1 hkey) h.slot
  have hbody {key : String} (hkey : n.kind.clears (.option .body key) = true) (rest : Path) :
      Path.Apart [n.slot, key] (n.slot :: n.inner :: rest) :=
    Path.apart_cons.2 fun _ => Path.apart_cons.2 fun heq =>
      absurd (heq ▸ List.contains_iff_mem.1 hkey) h.inner
  match s, t with
  | .option .root _, .option .root _ => exact Path.apart_of_ne [] (bne_iff_ne.1 hst)
  | .option .root _, .option .body _ | .option .root _, .option .inner _
  | .option .root _, .field => exact hroot hs _
  | .option .body _, .option .root _ | .option .inner _, .option .root _
  | .field, .option .root _ => exact (hroot ht _).symm
  | .option .body _, .option .body _ => exact Path.apart_of_ne [n.slot] (bne_iff_ne.1 hst)
  | .option .body _, .option .inner _ | .option .body _, .field => exact hbody hs _
  | .option .inner _, .option .body _ | .field, .option .body _ => exact (hbody ht _).symm
  | .option .inner _, .option .inner _ =>
    exact Path.apart_of_ne [n.slot, n.inner] (bne_iff_ne.1 hst)

/-- An operation leaves what there is at the spots of another. -/
theorem Clear.look_run (h : n.Clear) {op : Operation} {spots : List Spot}
    (hspots : op.spots? = some spots) (hclears : ∀ s ∈ spots, n.kind.clears s = true) {t : Spot}
    (ht : n.kind.clears t = true) (hdiffers : ∀ s ∈ spots, s.differs t = true) (args : Arguments) :
    (op.run n args).state.look t = n.look t := by
  obtain ⟨writes, hwrites, hstate⟩ := op.run_writes hspots n args
  rw [hstate]
  refine look_puts_of_apart fun write hwrite => ?_
  have hmem := hwrites write hwrite
  exact h.apart (hclears _ hmem) ht (hdiffers _ hmem)

/-- What a method answers when it is called without arguments. -/
def read (n : Node) (method : String) : Except Fault (Option Json) :=
  (n.call method {}).answer.map Answer.value?

/-- Reads of spots that hold the same. -/
theorem run_read_congr {op : Operation} {spots : List Spot} (hspots : op.spots? = some spots)
    (hkind : n.kind = m.kind) (hlook : ∀ s ∈ spots, n.look s = m.look s) :
    (op.run n {}).answer.map Answer.value? = (op.run m {}).answer.map Answer.value? := by
  have hforeign : Arguments.Foreign {} := ⟨by simp, by simp⟩
  have hdetached : op.Detached n.kind {} := by
    refine ⟨hforeign.stored op, fun e _ => .inl fun others => ?_⟩
    exact ⟨Argument.noConfusion, fun _ hitems => by cases hitems⟩
  exact (op.run_alike hspots hkind hlook (hdetached.agree hkind)).value

end Node

/-! ## Nodes that are reached -/

/-- The own methods of a kind without a field that is renamed have spots of options. -/
theorem Kind.method_spots {k : Kind} (hk : k.isIndependent = true) (hfield : k ∉ withField)
    {method : String} {op : Operation} (hop : Entries.get? k.methods method = some op) :
    (∃ spots, op.spots? = some spots ∧ ∀ s ∈ spots, k.clears s = true) ∨
      op.isInspection = true := by
  have htable : ∀ entry ∈ k.methods,
      (entry.2.spots?.any (·.all k.clears) || entry.2.isInspection) = true := by
    cases k with
    | query k => cases k <;> first | decide | exact absurd (by decide) hfield
    | filter k => cases k <;> first | decide | exact absurd (by decide) hfield
    | score k => cases k <;> first | decide | exact absurd (by decide) hfield
    | aggregation k => cases k <;> decide
    | facet k => cases k <;> decide
    | suggester k => cases k <;> first | decide | cases hk
    | _ => first | decide | cases hk
  refine (Bool.or_eq_true_iff.1 (htable _ (Entries.mem_of_get? hop))).imp_left fun hspots => ?_
  cases hop' : op.spots? with
  | none =>
    rw [hop'] at hspots
    cases hspots
  | some spots =>
    rw [hop'] at hspots
    exact ⟨spots, rfl, List.all_eq_true.1 hspots⟩

namespace Node

variable {n : Node} {members body : Entries Json}

/-- An operation at known spots keeps a node clear. -/
theorem Clear.run (h : n.Clear) {op : Operation} (hop : op.spots?.isSome = true)
    (args : Arguments) : (op.run n args).state.Clear := by
  obtain ⟨spots, hspots⟩ := Option.isSome_iff_exists.1 hop
  obtain ⟨writes, -, hstate⟩ := op.run_writes hspots n args
  rw [hstate]
  exact ⟨by simpa using h.slot, by simpa using h.inner⟩

theorem Clear.writeOption (h : n.Clear) (place : Place) (key : String) (value : Json) :
    (n.writeOption place key value).state.Clear := by
  obtain ⟨writes, -, hstate, -⟩ :=
    (writeOption_alike (n := n) (m := n) (s := .option place key) rfl (rfl : value = value)).writes
  change (n.writeOption place key value).state = _ at hstate
  rw [hstate]
  exact ⟨by simpa using h.slot, by simpa using h.inner⟩

/-- A call on a node without a field leaves its body and its options where they are. -/
theorem Clear.call (h : n.Clear) (hk : n.kind.isIndependent = true)
    (hfield : n.kind ∉ Kind.withField) (method : String) (args : Arguments) :
    (n.call method args).state.Clear := by
  unfold Node.call
  split
  · next op hop =>
    rcases Kind.method_spots hk hfield hop with ⟨spots, hspots, -⟩ | hlook
    · exact h.run (Option.isSome_iff_exists.2 ⟨spots, hspots⟩) args
    · cases op with
      | inspect i => exact (i.run_state n).symm ▸ h
      | _ => cases hlook
  · exact h

/-- A tidy node stays tidy in every call. -/
theorem Tidy.call (h : n.Tidy members body) (hsort : n.kind ≠ .sort) (method : String)
    (args : Arguments) :
    ∃ members' body', (n.call method args).state.Tidy members' body' := by
  unfold Node.call
  split
  · next op hop =>
    rcases Kind.method_cases h.kind hop with
      ⟨spots, hspots, hclears⟩ | (hlook | rfl) | ⟨-, hrename⟩ | ⟨hdecay, hcurve, rfl⟩ | ⟨hkind, -⟩
    · obtain ⟨writes, hwrites, hstate⟩ := op.run_writes hspots n args
      obtain ⟨members', body', htidy, -⟩ :=
        h.puts fun write hwrite => hclears _ (hwrites write hwrite)
      exact ⟨members', body', hstate ▸ htidy⟩
    · cases op with
      | inspect i => exact ⟨members, body, (i.run_state n).symm ▸ h⟩
      | _ => cases hlook
    · exact ⟨members, body, h⟩
    · obtain ⟨f, rfl, hf⟩ : ∃ f, op = .field f ∧ (f = .rename ∧ n.kind.keepsField = true ∨
          f = .renameIfSet ∧ n.kind = .filter .geoDistance) := by
        rcases hrename with ⟨hop, hkeeps⟩ | ⟨hop, hkind⟩ | ⟨-, hkind⟩
        · exact ⟨_, hop, .inl ⟨rfl, hkeeps⟩⟩
        · exact ⟨_, hop, .inr ⟨rfl, hkind⟩⟩
        · exact absurd hkind hsort
      cases hgiven : args.first.isNull with
      | true =>
        have hread : (f.run n args).state = n := by
          rcases hf with ⟨rfl, -⟩ | ⟨rfl, -⟩ <;> exact congrArg Outcome.state (if_pos hgiven)
        exact ⟨members, body, hread.symm ▸ h⟩
      | false =>
        obtain ⟨members', body', htidy, -⟩ := h.rename hf hgiven
        exact ⟨members', body', htidy⟩
    · exact ⟨_, _, (h.choose hdecay hcurve).1⟩
    · exact absurd hkind hsort
  · exact ⟨members, body, h⟩

end Node

/-! ### Construction -/

theorem QueryKind.node_clear (k : QueryKind) (body : Entries Json) : (k.node body).Clear where
  slot := by
    change k.discriminator ∉ (Kind.query k).besideKeys
    cases k <;> decide
  inner := by
    change "" ∉ (Kind.query k).optionKeys
    cases k <;> decide

theorem FilterKind.node_clear (k : FilterKind) (body : Entries Json) : (k.node body).Clear where
  slot := by
    change k.discriminator ∉ (Kind.filter k).besideKeys
    cases k <;> decide
  inner := by
    change "" ∉ (Kind.filter k).optionKeys
    cases k <;> decide

/-- A node is clear if neither its slot nor its name is an option. -/
theorem Node.clear_of {n : Node} {k : Kind} (slot inner : String) (hkind : n.kind = k)
    (hslot : n.slot = slot) (hinner : n.inner = inner) (hbeside : slot ∉ k.besideKeys)
    (hoption : inner ∉ k.optionKeys) : n.Clear where
  slot := by
    rw [hkind, hslot]
    exact hbeside
  inner := by
    rw [hkind, hinner]
    exact hoption

open Node in
/-- What is built for a kind without a field that is renamed has no name in the way. -/
theorem Kind.build_clear {k : Kind} (hk : k.isIndependent = true) (hfield : k ∉ withField)
    (args : Arguments) : (k.build args).state.Clear := by
  have hkind := k.build_kind args
  cases k with
  | query k =>
    have hnode := k.node_clear
    cases k with
    | generic => cases hk
    | term | wordStart | wildcard | spanTerm | text | range | terms =>
      exact absurd (by decide) hfield
    | multiField | ids =>
      simp only [build, QueryKind.build]
      split <;> exact hnode _
    | filtered | spanNot | spanFirst =>
      exact Outcome.andThen_keeps ((hnode _).run rfl _) fun m hm => hm.run rfl _
    | spanNear | spanOr => exact (hnode _).run rfl _
    | _ => exact hnode _
  | filter k =>
    have hnode := k.node_clear
    cases k with
    | generic => cases hk
    | term | wordStart | terms | range | geoDistance | geoBox => exact absurd (by decide) hfield
    | ids =>
      simp only [build, FilterKind.build]
      split <;> exact hnode _
    | query | not | and | or => exact (hnode _).run rfl _
    | _ => exact hnode _
  | score k =>
    cases k with
    | generic => cases hk
    | decay => exact absurd (by decide) hfield
    | bare | boostFactor => exact clear_of "" "" hkind rfl rfl (by decide) (by decide)
    | script =>
      have hempty : (ScoreKind.script.node "script_score" []).Clear :=
        clear_of _ "" rfl rfl rfl (by decide) (by decide)
      exact hempty.run rfl _
    | random => exact clear_of "random_score" "" hkind rfl rfl (by decide) (by decide)
    | fieldValue => exact clear_of "field_value_factor" "" hkind rfl rfl (by decide) (by decide)
  | aggregation k =>
    have hinner : ((aggregation k).build args).state.inner = k.type := by
      cases k <;> first | rfl | cases hk
    refine clear_of _ _ hkind rfl hinner ?_ (by cases k <;> decide)
    cases k <;> exact List.not_mem_nil
  | facet k =>
    have hinner : ((facet k).build args).state.inner = k.type?.getD "" := by cases k <;> rfl
    refine clear_of _ _ hkind rfl hinner ?_ (by cases k <;> decide)
    cases k <;> exact List.not_mem_nil
  | suggester k =>
    have hinner : ((suggester k).build args).state.inner = k.type := by
      cases k <;> first | rfl | cases hk
    refine clear_of _ _ hkind rfl hinner ?_ (by cases k <;> decide)
    cases k <;> exact List.not_mem_nil
  | scriptField => exact clear_of _ "" hkind rfl rfl List.not_mem_nil (by decide)
  | generator | indexedShape => exact clear_of "" "" hkind rfl rfl (by decide) (by decide)
  | shape =>
    have hempty : ({ kind := .shape, fragment := .empty } : Node).Clear := ⟨by decide, by decide⟩
    exact Outcome.andThen_keeps (hempty.run rfl _) fun m hm => hm.writeOption .root "coordinates" _
  | rescore =>
    have hempty : (Node.envelope .rescore "query" []).Clear := ⟨by decide, by decide⟩
    exact Outcome.andThen_keeps (hempty.run rfl _) fun m hm => hm.run rfl _
  | sort => exact absurd (by decide) hfield
  | _ => cases hk

namespace Node

variable {n : Node} {members body : Entries Json}

theorem Tidy.clear (h : n.Tidy members body) (hinner : n.inner ∉ n.kind.optionKeys) : n.Clear :=
  ⟨h.slot_notMem, hinner⟩

/-- Calls keep a node tidy, unless it is a sort clause. -/
theorem Tidy.after (h : n.Tidy members body) (hsort : n.kind ≠ .sort)
    (calls : List (String × Arguments)) :
    ∃ members' body', (n.after calls).Tidy members' body' := by
  induction calls generalizing n members body with
  | nil => exact ⟨members, body, h⟩
  | cons call rest ih =>
    obtain ⟨members', body', h'⟩ := h.call hsort call.1 call.2
    exact ih h' ((n.call_kind call.1 call.2).symm ▸ hsort)

/-- Calls keep a node clear whose kind is about no field. -/
theorem Clear.after (h : n.Clear) (hk : n.kind.isIndependent = true)
    (hfield : n.kind ∉ Kind.withField) (calls : List (String × Arguments)) :
    (n.after calls).Clear := by
  induction calls generalizing n with
  | nil => exact h
  | cons call rest ih =>
    have hkind := n.call_kind call.1 call.2
    exact ih (h.call hk hfield call.1 call.2) (hkind.symm ▸ hk) (hkind.symm ▸ hfield)

/-- Nodes about a field are tidy after any calls. -/
theorem built_tidy {k : Kind} (hk : k.isIndependent = true) (hfield : k ∈ Kind.withField)
    (args : Arguments) (calls : List (String × Arguments)) :
    ∃ members body, ((k.build args).state.after calls).Tidy members body := by
  have hsort : k ≠ .sort := by
    rintro rfl
    cases hk
  rw [Kind.build_field hfield]
  exact (started_tidy hfield (fun hkind => absurd hkind hsort)
    (Kind.isSome_fieldContent hfield args)).after hsort calls

/-- No node that is reached has a name in the way, unless it is that of a field. -/
theorem built_clear {k : Kind} (hk : k.isIndependent = true) (args : Arguments)
    (calls : List (String × Arguments))
    (hfree : k ∈ Kind.withField → ((k.build args).state.after calls).inner ∉ k.optionKeys) :
    ((k.build args).state.after calls).Clear := by
  have hkind := k.build_kind args
  by_cases hfield : k ∈ Kind.withField
  · obtain ⟨_, _, htidy⟩ := built_tidy hk hfield args calls
    refine htidy.clear ?_
    rw [after_kind, hkind]
    exact hfree hfield
  · exact (Kind.build_clear hk hfield args).after (hkind.symm ▸ hk) (hkind.symm ▸ hfield) calls

end Node

/-! ## What is read back -/

theorem Argument.name_of_text? {v : Argument} {word : String} (h : v.text? = some word) :
    v.name = word := by
  cases v with
  | plain value =>
    cases value with
    | str s => exact Option.some.inj h
    | _ => cases h
  | _ => cases h

/-- What a plain, enumerated or node-valued accessor reads after an accepted call, if it has read
`before`: the value, the word in its stored form unless it was dropped, or the fragment of the
child. Names of fields are texts. -/
def Operation.form? (op : Operation) (n : Node) (v : Argument)
    (before : Except Fault (Option Json)) : Option (Except Fault (Option Json)) :=
  match op with
  | .accessor (.option _ _) | .accessor (.number _ _) | .accessor (.integer _ _)
  | .field .value | .field .fieldList => some (.ok (some (v.toJson n)))
  | .accessor (.child _ _ _) | .geo .origin => some (.ok (some (v.snapshot n)))
  | .accessor (.choice _ _ words folding) =>
    some <| match v.text?.map folding.apply with
      | some word => if words.contains word then .ok (some (.str word)) else before
      | none => before
  | .field .rename | .field .renameIfSet => v.text?.map fun name => .ok (some (.str name))
  | _ => none

namespace Node

variable {n : Node}

/-- What is written is read back. -/
theorem readOption_of_write (s : Spot) {value : Json}
    (hok : (n.writeOption s.place (s.key n.inner) value).answer = .ok .self) :
    ((n.writeOption s.place (s.key n.inner) value).state.readOption s.place
      (s.key n.inner)).answer.map Answer.value? = .ok (some value) := by
  rw [writeOption_eq] at hok ⊢
  cases hlook : n.look s with
  | none =>
    rw [hlook] at hok
    cases hok
  | some held =>
    change ((n.put s value).readOption s.place (s.key (n.put s value).inner)).answer.map _ = _
    rw [readOption_eq, look_put_self hlook]
    rfl

/-- A renaming that is accepted takes the new name. -/
theorem renameInner_of_accepted {name : String}
    (hok : (n.renameInner name).answer = .ok .self) : (n.renameInner name).state.inner = name := by
  unfold renameInner at hok ⊢
  split at hok
  · rfl
  · cases hok

end Node

/-- An accepted rename renames. -/
theorem FieldMethod.inner_of_accepted {f : FieldMethod} (hf : f = .rename ∨ f = .renameIfSet)
    {n : Node} {args : Arguments} (hok : (f.run n args).answer = .ok .self) :
    (f.run n args).state.inner = args.first.name := by
  revert hok
  rcases hf with rfl | rfl
  · simp only [run]
    split
    · exact fun hok => by cases hok
    · exact Node.renameInner_of_accepted
  · simp only [run]
    split
    · exact fun hok => by cases hok
    · split
      · split
        · exact Node.renameInner_of_accepted
        · exact fun _ => rfl
      · exact fun hok => by cases hok

namespace Accessor

/-- Whether an accessor stores an argument that it accepts as it is. -/
def storesWhole : Accessor → Bool
  | option _ _ | child _ _ _ | number _ _ | integer _ _ => true
  | _ => false

/-- What such an accessor stores: a copy of a node in its slot, or else what it is given. -/
def whole (n : Node) (v : Argument) : Accessor → Json
  | child _ _ _ => v.snapshot n
  | _ => v.toJson n

/-- A value that is accepted whole is set as an option. -/
theorem write_of_accepted {a : Accessor} (ha : a.storesWhole = true) {n : Node} {v : Argument}
    (hok : (a.write n v).answer = .ok .self) :
    a.write n v = n.writeOption a.place a.key (a.whole n v) := by
  revert hok
  cases a with
  | option => exact fun _ => rfl
  | child =>
    simp only [write]
    split
    · exact fun _ => rfl
    · exact fun hok => by cases hok
  | number =>
    simp only [write]
    split
    · exact fun _ => rfl
    · exact fun _ => rfl
    · exact fun hok => by cases hok
  | integer =>
    simp only [write]
    split
    · exact fun _ => rfl
    · exact fun hok => by cases hok
  | _ => cases ha

end Accessor

namespace Operation

variable {n : Node} {args : Arguments} {form : Except Fault (Option Json)}

/-- An accepted call of an accessor that reads a spot has been given something. -/
theorem isNull_of_accepted {op : Operation} (hok : (op.run n args).answer = .ok .self) (s : Spot)
    (hread : args.first.isNull = true → op.run n args = n.readOption s.place (s.key n.inner)) :
    args.first.isNull = false := by
  refine Bool.eq_false_iff.2 fun hnull => n.readOption_ne_self s ?_
  rw [← hread hnull]
  exact hok

/-- An accessor of a spot reads back what it has written there. -/
theorem run_of_write {op : Operation} (hok : (op.run n args).answer = .ok .self) (s : Spot)
    {value : Json} (hwrite : op.run n args = n.writeOption s.place (s.key n.inner) value)
    (hread : ∀ m : Node, op.run m {} = m.readOption s.place (s.key m.inner)) :
    (op.run (op.run n args).state {}).answer.map Answer.value? = .ok (some value) := by
  have hinner : (op.run n args).state.inner = n.inner := by
    rw [hwrite, n.writeOption_eq]
    split <;> rfl
  rw [hread, hinner, hwrite]
  refine Node.readOption_of_write s ?_
  rw [← hwrite]
  exact hok

/-- A value that is accepted whole is read back. -/
theorem run_whole {a : Accessor} (ha : a.storesWhole = true)
    (hok : ((accessor a).run n args).answer = .ok .self) :
    ((accessor a).run ((accessor a).run n args).state {}).answer.map Answer.value? =
      .ok (some (a.whole n args.first)) := by
  have hread (m : Node) : (accessor a).run m {} = m.readOption a.place a.key := by
    cases a <;> first | rfl | cases ha
  have hnull : args.first.isNull = false := by
    refine isNull_of_accepted hok (.option a.place a.key) fun hnull => ?_
    refine (if_pos hnull).trans ?_
    cases a <;> first | rfl | cases ha
  have hrun : (accessor a).run n args = a.write n args.first := if_neg (Bool.eq_false_iff.1 hnull)
  have hwrite := a.write_of_accepted ha (hrun ▸ hok)
  exact run_of_write hok (.option a.place a.key) (hrun.trans hwrite) hread

/-- A word that is dropped leaves what was there before. -/
theorem run_choice {place : Place} {key : String} {words : List String} {folding : Folding}
    (hform : (accessor (.choice place key words folding)).form? n args.first
      (((accessor (.choice place key words folding)).run n {}).answer.map Answer.value?) =
        some form)
    (hok : ((accessor (.choice place key words folding)).run n args).answer = .ok .self) :
    ((accessor (.choice place key words folding)).run
      ((accessor (.choice place key words folding)).run n args).state {}).answer.map
        Answer.value? = form := by
  have hnull := isNull_of_accepted hok (.option place key) fun hnull => if_pos hnull
  have hrun : (accessor (.choice place key words folding)).run n args =
      (Accessor.choice place key words folding).write n args.first :=
    if_neg (Bool.eq_false_iff.1 hnull)
  rw [form?, Option.some.injEq] at hform
  rw [← hform]
  cases htext : args.first.text? with
  | none =>
    rw [hrun, Accessor.write, htext] at hok
    cases hok
  | some word =>
    simp only [Option.map_some]
    simp only [Accessor.write, htext] at hrun
    split
    · next hword =>
      rw [if_pos hword] at hrun
      exact run_of_write hok (.option place key) hrun fun _ => rfl
    · next hword =>
      rw [if_neg hword] at hrun
      rw [hrun]
      rfl

theorem run_value (hok : ((field .value).run n args).answer = .ok .self) :
    ((field .value).run ((field .value).run n args).state {}).answer.map Answer.value? =
      .ok (some (args.first.toJson n)) := by
  have hnull := isNull_of_accepted hok .field fun hnull => if_pos hnull
  exact run_of_write hok .field (if_neg (Bool.eq_false_iff.1 hnull)) fun _ => rfl

theorem run_fieldList (hok : ((field .fieldList).run n args).answer = .ok .self) :
    ((field .fieldList).run ((field .fieldList).run n args).state {}).answer.map Answer.value? =
      .ok (some (args.first.toJson n)) := by
  have hnull := isNull_of_accepted hok (.option .body "fields") fun hnull => if_pos hnull
  refine run_of_write hok (.option .body "fields") ?_ fun _ => rfl
  revert hok
  simp only [run, FieldMethod.run, hnull, Bool.false_eq_true, if_false]
  split
  · next items hitems =>
    rw [FieldMethod.termsOf, hitems, Argument.toJson_of_items hitems]
    exact fun _ => rfl
  · exact fun hok => by cases hok

theorem run_origin (hok : ((geo .origin).run n args).answer = .ok .self) :
    ((geo .origin).run ((geo .origin).run n args).state {}).answer.map Answer.value? =
      .ok (some (args.first.snapshot n)) := by
  have hnull := isNull_of_accepted hok (.option .inner "origin") fun hnull => if_pos hnull
  refine run_of_write hok (.option .inner "origin") ?_ fun _ => rfl
  revert hok
  simp only [run, GeoMethod.run, hnull, Bool.false_eq_true, if_false]
  split
  · exact fun hok => by cases hok
  · exact fun _ => rfl

/-- An accessor with one argument reads back what it has stored. -/
theorem run_form {op : Operation}
    (hform : op.form? n args.first ((op.run n {}).answer.map Answer.value?) = some form)
    (hok : (op.run n args).answer = .ok .self) :
    (op.run (op.run n args).state {}).answer.map Answer.value? = form := by
  cases op with
  | accessor a =>
    cases a with
    | option | child | number | integer =>
      cases hform
      exact run_whole rfl hok
    | choice => exact run_choice hform hok
    | _ => cases hform
  | field f =>
    cases f with
    | value =>
      cases hform
      exact run_value hok
    | fieldList =>
      cases hform
      exact run_fieldList hok
    | rename | renameIfSet =>
      obtain ⟨name, htext, rfl⟩ := Option.map_eq_some_iff.1 hform
      have hinner := FieldMethod.inner_of_accepted (by decide) hok
      rw [Argument.name_of_text? htext] at hinner
      exact congrArg (fun name => Except.ok (some (Json.str name))) hinner
    | _ => cases hform
  | geo g =>
    cases g with
    | origin =>
      cases hform
      exact run_origin hok
    | _ => cases hform
  | _ => cases hform

end Operation

/-! ## Other accessors -/

namespace Kind

theorem isInspection_ownMethods (k : Kind) :
    ∀ entry ∈ k.ownMethods, entry.2.isInspection = false := by
  cases k with
  | query k => cases k <;> decide
  | filter k => cases k <;> decide
  | score k => cases k <;> decide
  | aggregation k => cases k <;> decide
  | facet k => cases k <;> decide
  | suggester k => cases k <;> decide
  | _ => decide

/-- The accessors of a kind whose accessors do not interfere. -/
theorem accessor_cases {k : Kind} (hk : k.isIndependent = true) {method : String}
    (hmethod : k.IsAccessor method) :
    ∃ op, Entries.get? k.ownMethods method = some op ∧
      ((∃ spots, op.spots? = some spots ∧ ∀ s ∈ spots, k.clears s = true) ∨
        op = .decay .current ∨
        method = "field" ∧ k ∈ withField ∧ ∃ f, op = .field f ∧
          (f = .rename ∧ k.keepsField = true ∨ f = .renameIfSet ∧ k = .filter .geoDistance)) := by
  obtain ⟨op, hop⟩ := hmethod.own
  have hreads := hmethod.onlyReads hop
  have hlook := k.isInspection_ownMethods _ (Entries.mem_of_get? hop)
  refine ⟨op, hop, ?_⟩
  by_cases hfield : k ∈ withField
  · rcases method_cases hfield (get?_methods hop) with
      hspots | (hinspection | hcurrent) | ⟨rfl, hrename⟩ | ⟨-, -, rfl⟩ | ⟨rfl, -⟩
    · exact .inl hspots
    · exact absurd (hlook.symm.trans hinspection) Bool.false_ne_true
    · exact .inr (.inl hcurrent)
    · refine .inr (.inr ⟨rfl, hfield, ?_⟩)
      rcases hrename with ⟨hop, hkeeps⟩ | ⟨hop, hkind⟩ | ⟨-, rfl⟩
      · exact ⟨_, hop, .inl ⟨rfl, hkeeps⟩⟩
      · exact ⟨_, hop, .inr ⟨rfl, hkind⟩⟩
      · cases hk
    · cases hreads
    · cases hk
  · rcases method_spots hk hfield (get?_methods hop) with hspots | hinspection
    · exact .inl hspots
    · exact absurd (hlook.symm.trans hinspection) Bool.false_ne_true

end Kind

/-- An accepted accessor leaves the body under its slot, the field under its name unless it renames
it, and what is at the spots of other accessors. -/
theorem Node.run_accessor {k : Kind} (hk : k.isIndependent = true) {n : Node} (hkind : n.kind = k)
    (hclear : n.Clear) (htidy : k ∈ Kind.withField → ∃ members body, n.Tidy members body)
    {method : String} (hmethod : k.IsAccessor method) {op : Operation}
    (hop : Entries.get? k.ownMethods method = some op) {given : Arguments}
    (hfree : k ∈ Kind.withField → (op.run n given).state.inner ∉ k.optionKeys)
    (hok : (op.run n given).answer = .ok .self) :
    (op.run n given).state.slot = n.slot ∧
      (method ≠ "field" → (op.run n given).state.inner = n.inner) ∧
      ∀ other op', k.IsAccessor other → other ≠ method → areAliases method other = false →
        Entries.get? k.ownMethods other = some op' →
        ∀ spots', op'.spots? = some spots' → (∀ t ∈ spots', k.clears t = true) →
          ∀ t ∈ spots', (op.run n given).state.look t = n.look t := by
  subst hkind
  obtain ⟨op', hop', hcase⟩ := Kind.accessor_cases hk hmethod
  cases hop.symm.trans hop'
  rcases hcase with ⟨spots, hspots, hclears⟩ | rfl | ⟨hname, hfield, f, rfl, hf⟩
  · obtain ⟨writes, -, hstate⟩ := op.run_writes hspots n given
    refine ⟨?_, fun _ => ?_, ?_⟩
    · rw [hstate, puts_slot]
    · rw [hstate, puts_inner]
    · intro other op' hother hne haliases hop' spots' hspots' hclears' t ht
      exact hclear.look_run hspots hclears (hclears' t ht) (fun s hs => Kind.differs_methods hmethod
        hother hne haliases hop hop' hspots hspots' s hs t ht) given
  · cases hok
  · obtain ⟨members, body, htidy⟩ := htidy hfield
    have hgiven : given.first.isNull = false := by
      refine Bool.eq_false_iff.2 fun hnull => ?_
      rcases hf with ⟨rfl, -⟩ | ⟨rfl, -⟩ <;>
        cases (congrArg Outcome.answer (if_pos hnull)).symm.trans hok
    obtain ⟨members', body', htidy', hsettings, hinner, hslot⟩ := htidy.rename hf hgiven
    have hkind := (Operation.field f).run_kind n given
    refine ⟨hslot, fun hne => absurd hname hne, fun _ _ _ _ _ _ spots' _ hclears' t ht => ?_⟩
    -- A rename moves members and keeps the settings, which are what is seen at the spots.
    refine (htidy'.look_eq (hkind.symm ▸ hfree hfield) (hkind.symm ▸ hclears' t ht)).trans ?_
    rw [hsettings (hinner ▸ hfree hfield), htidy.look_eq hclear.inner (hclears' t ht)]

/-- The accessors of a node do not interfere. Of each of them, an accepted call stores what the
accessor reads from then on if it is a plain, enumerated or node-valued one with one argument; nulls
change nothing afterwards; and what the other accessors read is the same as before. -/
theorem Node.accessors_independent {k : Kind} (hk : k.isIndependent = true) (args : Arguments)
    (calls : List (String × Arguments)) {method : String} (hmethod : k.IsAccessor method)
    (given : Arguments) :
    let n := (k.build args).state.after calls
    let m := (n.call method given).state
    (k ∈ Kind.withField → n.inner ∉ k.optionKeys ∧ m.inner ∉ k.optionKeys) →
      (n.call method given).answer = .ok .self →
        (∀ op form, Entries.get? k.ownMethods method = some op →
          op.form? n given.first (n.read method) = some form → m.read method = form) ∧
        (∀ nulls : Arguments, nulls.IsNull → (m.call method nulls).state = m) ∧
        ∀ other, k.IsAccessor other → other ≠ method → areAliases method other = false →
          m.read other = n.read other := by
  intro n m hfree hok
  have hkind : n.kind = k := (after_kind _ calls).trans (k.build_kind args)
  have hkind' : m.kind = k := (n.call_kind method given).trans hkind
  have hcall {p : Node} (hp : p.kind = k) {method : String} {op : Operation}
      (hop : Entries.get? k.ownMethods method = some op) (args : Arguments) :
      p.call method args = op.run p args := by
    unfold Node.call
    rw [hp, Kind.get?_methods hop]
  have hread {p : Node} (hp : p.kind = k) {method : String} {op : Operation}
      (hop : Entries.get? k.ownMethods method = some op) :
      p.read method = (op.run p {}).answer.map Answer.value? :=
    congrArg (fun o => o.answer.map Answer.value?) (hcall hp hop {})
  obtain ⟨op, hop⟩ := hmethod.own
  have hm : m = (op.run n given).state := congrArg Outcome.state (hcall hkind hop given)
  rw [hcall hkind hop] at hok
  refine ⟨fun op' form hop' hform => ?_, fun nulls => hmethod.reads m nulls hkind', ?_⟩
  · cases hop.symm.trans hop'
    rw [hread hkind hop] at hform
    rw [hread hkind' hop, hm]
    exact Operation.run_form hform hok
  · intro other hother hne haliases
    obtain ⟨op', hop', hcase⟩ := Kind.accessor_cases hk hother
    obtain ⟨hslot, hinner, hlook⟩ := run_accessor hk hkind
      (built_clear hk args calls fun hfield => (hfree hfield).1)
      (fun hfield => built_tidy hk hfield args calls) hmethod hop
      (fun hfield => hm ▸ (hfree hfield).2) hok
    rw [hread hkind' hop', hread hkind hop', hm]
    rcases hcase with ⟨spots', hspots', hclears'⟩ | rfl | ⟨rfl, -, f, rfl, hf⟩
    · exact run_read_congr hspots' (op.run_kind n given)
        (hlook other op' hother hne haliases hop' spots' hspots' hclears')
    · exact congrArg (fun slot => Except.ok (some (Json.str slot))) hslot
    · have hname (p : Node) :
          ((Operation.field f).run p {}).answer.map Answer.value? = .ok (some (.str p.inner)) := by
        rcases hf with ⟨rfl, -⟩ | ⟨rfl, -⟩ <;> rfl
      rw [hname, hname, hinner hne.symm]

/-- A match query about a second field keeps all else when its operator is set. -/
theorem Node.accessors_independent_operator :
    let k : Kind := .query .text
    let args : Arguments := { positional := [.plain (.str "title"), .plain (.str "lean")] }
    let calls : List (String × Arguments) :=
      [("field", .one (.plain (.str "body"))), ("boost", .one (.plain (.int 2)))]
    let given : Arguments := .one (.plain (.str "AND"))
    let n := (k.build args).state.after calls
    let m := (n.call "operator" given).state
    k.isIndependent = true ∧ k.IsAccessor "operator" ∧ k.IsAccessor "query" ∧
      (n.inner ∉ k.optionKeys ∧ m.inner ∉ k.optionKeys) ∧
      (n.call "operator" given).answer = .ok .self ∧
      m.read "operator" = .ok (some (.str "and")) ∧ m.read "query" = .ok (some (.str "lean")) ∧
      (m.call "operator" (.one .null)).state = m := by
  intro k args calls given n m
  have hmethod : k.IsAccessor "operator" := Kind.isAccessor_of_onlyReads rfl rfl
  have hquery : k.IsAccessor "query" := Kind.isAccessor_of_onlyReads rfl rfl
  have hfree : n.inner ∉ k.optionKeys ∧ m.inner ∉ k.optionKeys := by decide +kernel
  have hok : (n.call "operator" given).answer = .ok .self := rfl
  obtain ⟨hform, hnull, hother⟩ :=
    accessors_independent rfl args calls hmethod given (fun _ => hfree) hok
  refine ⟨rfl, hmethod, hquery, hfree, hok, hform _ _ rfl rfl, ?_, hnull _ ?_⟩
  · exact (hother "query" hquery (by decide) (by decide)).trans rfl
  · exact ⟨List.forall_mem_singleton.2 rfl, fun _ hmem => absurd hmem List.not_mem_nil⟩

end SearchBuilder
