import SearchBuilder.Proofs.Document.Interference

/-!
# Enumerated options

Some options take one of a few words only. `Operation.enumeration?` says at which spot a setter of
such an option stores and what may stand there (`Enumeration.Admits`): a word in its stored form,
for bucket orders a key with a direction, and for the fields of a highlight the options of each,
among them words again.

A node is canonical if each of these spots is empty or holds what may stand there. Calls that store
at spots keep it so in any frame of names that are in no option's way (`Node.Framed`), and sort
clauses and highlights, whose calls do more than that, are kept so as well.
-/

namespace SearchBuilder

/-! ## What may stand at a spot -/

/-- What an enumerated setter lets stand at its spot. -/
inductive Enumeration where
  /-- One of some words. -/
  | word (words : List String)
  /-- A key with a direction. -/
  | order
  /-- Fields of a highlight, with options of their own. -/
  | fields
  deriving DecidableEq

/-- The spot of an enumerated setter, with what may stand there. -/
def Operation.enumeration? : Operation → Option (Spot × Enumeration)
  | .accessor (.choice place key words _) => some (.option place key, .word words)
  | .bucket .order => some (.option .inner "order", .order)
  | .highlight (.choice key words) => some (.option .root key, .word words)
  | .highlight .fields => some (.option .root "fields", .fields)
  | _ => none

namespace Kind

/-- The spots of the enumerated setters of a kind. -/
def enumerations (k : Kind) : List (Spot × Enumeration) :=
  k.methods.filterMap (·.2.enumeration?)

/-- An enumerated setter stores under a key. -/
theorem eq_option_of_mem {k : Kind} {s : Spot} {e : Enumeration} (h : (s, e) ∈ k.enumerations) :
    s = .option s.place (s.key "") := by
  obtain ⟨entry, -, hentry⟩ := List.mem_filterMap.1 h
  unfold Operation.enumeration? at hentry
  split at hentry <;> cases hentry <;> rfl

/-- Every enumerated option among some members of a place is one of its words. -/
def Enumerates (k : Kind) (place : Place) (members : Entries Json) : Prop :=
  ∀ key words, (.option place key, .word words) ∈ k.enumerations →
    ∀ value, Entries.get? members key = some value → ∃ word ∈ words, value = .str word

end Kind

namespace Enumeration

/-- Whether a value may stand at a spot. -/
def Admits : Enumeration → Json → Prop
  | word words, value => ∃ word ∈ words, value = .str word
  | order, value => ∃ key, ∃ word ∈ BodyMethod.orders, value = .obj [(key, .str word)]
  | fields, value => ∃ fields, value = .obj fields ∧
      ∀ field options, Entries.get? fields field = some options →
        ∃ members, options = .obj members ∧ Kind.highlight.Enumerates .root members

/-- A spot is there, and it is empty or holds what may stand there. -/
def Allows (e : Enumeration) (seen : Option (Option Json)) : Prop :=
  seen = some none ∨ ∃ value, seen = some (some value) ∧ e.Admits value

variable {e : Enumeration}

theorem Allows.empty : e.Allows (some none) := .inl rfl

theorem Allows.holds {value : Json} (h : e.Admits value) : e.Allows (some (some value)) :=
  .inr ⟨value, rfl, h⟩

theorem Allows.exists_held {seen : Option (Option Json)} (h : e.Allows seen) :
    ∃ held, seen = some held :=
  h.elim (fun hnone => ⟨none, hnone⟩) fun ⟨_, hvalue, _⟩ => ⟨_, hvalue⟩

/-- What is held at an allowed spot is admitted. -/
theorem Allows.admits {value : Json} (h : e.Allows (some (some value))) : e.Admits value := by
  obtain hnone | ⟨_, hvalue, hadmits⟩ := h
  · cases hnone
  · cases hvalue
    exact hadmits

end Enumeration

/-- Every enumerated spot of a node is empty or holds what may stand there. -/
def Node.Canonical (n : Node) : Prop :=
  ∀ s e, (s, e) ∈ n.kind.enumerations → e.Allows (n.look s)

/-! ## Setters -/

section Setters

variable {n : Node} {s : Spot} {e : Enumeration}

/-- A spot holds what is stored there. -/
theorem Enumeration.Allows.writeOption (h : e.Allows (n.look s)) {value : Json}
    (hvalue : e.Admits value) :
    e.Allows ((n.writeOption s.place (s.key n.inner) value).state.look s) := by
  obtain ⟨held, hheld⟩ := h.exists_held
  rw [n.writeOption_eq, hheld]
  exact (Node.look_put_self hheld value).symm ▸ .holds hvalue

/-- A direction that is taken is one of the words for orders. -/
theorem BucketMethod.mem_orders_of_direction {v : Argument} {word : String}
    {notices : List Notice} (h : direction v = .ok (word, notices)) : word ∈ BodyMethod.orders := by
  unfold direction at h
  split at h
  · cases h
    decide
  · split at h
    · cases h
    · next text _ =>
      dsimp only at h
      split at h
      · next hword =>
        cases h
        simpa [BodyMethod.orders] using hword
      · cases h
        decide

/-- An enumerated setter stores what may stand at its spot. -/
theorem Operation.run_enumerated {op : Operation} (henum : op.enumeration? = some (s, e))
    (hspots : op.spots?.isSome = true) (h : e.Allows (n.look s)) (args : Arguments) :
    e.Allows ((op.run n args).state.look s) := by
  cases op with
  | accessor a =>
    cases a with
    | choice place key words folding =>
      cases henum
      simp only [run, Accessor.run]
      split
      · exact (n.readOption_state place key).symm ▸ h
      · simp only [Accessor.write]
        split
        · exact h
        · split
          · next hword => exact h.writeOption ⟨_, List.contains_iff_mem.1 hword, rfl⟩
          · exact h
    | _ => cases henum
  | bucket b =>
    cases b with
    | order =>
      cases henum
      simp only [run, BucketMethod.run]
      split
      · exact (n.readOption_state .inner "order").symm ▸ h
      · split
        · exact h
        · next hdirection =>
          exact h.writeOption ⟨_, _, BucketMethod.mem_orders_of_direction hdirection, rfl⟩
    | _ => cases henum
  | highlight => cases hspots
  | _ => cases henum

end Setters

/-! ## Other words -/

theorem Argument.isNull_of_text? {v : Argument} {word : String} (h : v.text? = some word) :
    v.isNull = false := by
  cases v with
  | plain value => cases value <;> first | rfl | cases h
  | _ => rfl

/-- The words of a setter that takes one of a few. -/
structure Choice where
  key : String
  words : List String
  folding : Folding

namespace Operation

/-- The words that a setter takes. -/
def choice? : Operation → Option Choice
  | .accessor (.choice _ key words folding) => some ⟨key, words, folding⟩
  | .highlight (.choice key words) => some ⟨key, words, .lower⟩
  | _ => none

/-- The argument that a setter takes for its word. -/
def value (op : Operation) (args : Arguments) : Argument :=
  match op with
  | .highlight _ => args.first ["field"]
  | _ => args.first

variable {op : Operation} {c : Choice} {n : Node} {args : Arguments}

/-- A word that is none of the words of the setter is dropped. -/
theorem run_unknown (hc : op.choice? = some c) {word : String}
    (hword : (op.value args).text? = some word) (hunknown : c.folding.apply word ∉ c.words) :
    op.run n args = .noticed n (.ignoredWord c.key n.kind.name word) := by
  have hgiven := Argument.isNull_of_text? hword
  rw [← List.contains_iff_mem] at hunknown
  cases op with
  | accessor a =>
    cases a with
    | choice place key words folding =>
      cases hc
      change args.first.text? = some word at hword
      change args.first.isNull = false at hgiven
      simp only [run, Accessor.run, hgiven, Bool.false_eq_true, if_false, Accessor.write, hword]
      exact if_neg hunknown
    | _ => cases hc
  | highlight m =>
    cases m with
    | choice key words =>
      cases hc
      change (args.first ["field"]).text? = some word at hword
      change (args.first ["field"]).isNull = false at hgiven
      simp only [run, HighlightMethod.run, hgiven, Bool.false_eq_true, if_false, hword]
      exact if_neg hunknown
    | _ => cases hc
  | _ => cases hc

/-- What is no text is refused. -/
theorem run_notText (hc : op.choice? = some c) (hgiven : (op.value args).isNull = false)
    (htext : (op.value args).text? = none) : op.run n args = .refused n (.notText c.key) := by
  cases op with
  | accessor a =>
    cases a with
    | choice place key words folding =>
      cases hc
      change args.first.text? = none at htext
      change args.first.isNull = false at hgiven
      simp only [run, Accessor.run, hgiven, Bool.false_eq_true, if_false, Accessor.write, htext]
    | _ => cases hc
  | highlight m =>
    cases m with
    | choice key words =>
      cases hc
      change (args.first ["field"]).text? = none at htext
      change (args.first ["field"]).isNull = false at hgiven
      simp only [run, HighlightMethod.run, hgiven, Bool.false_eq_true, if_false, htext]
    | _ => cases hc
  | _ => cases hc

end Operation

namespace BucketMethod

variable {v : Argument}

theorem direction_of_falsy (h : v.isTruthy = false) : direction v = .ok ("desc", []) := by
  simp [direction, h]

/-- A direction that is no known word becomes descending, with a notice. -/
theorem direction_of_unknown (h : v.isTruthy = true) {word : String} (hword : v.text? = some word)
    (hunknown : lower word ∉ BodyMethod.orders) :
    direction v = .ok ("desc", [.unknownDirection (lower word)]) := by
  have hnone : ¬ (lower word = "asc" ∨ lower word = "desc") := by
    simpa [BodyMethod.orders] using hunknown
  simp [direction, h, hword, hnone]

/-- A direction that is no text is a fault of its own. -/
theorem direction_of_notText (h : v.isTruthy = true) (htext : v.text? = none) :
    direction v = .error .directionNotText := by
  simp [direction, h, htext]

variable {n : Node} {args : Arguments}

/-- A bucket order with a direction that stands for the usual one. -/
theorem run_order (h : Enumeration.order.Allows (n.look (.option .inner "order")))
    {key : String} (hkey : (args.first ["direction"]).text? = some key) {word : String}
    {notices : List Notice}
    (hdirection : direction (args.get 1 "direction") = .ok (word, notices)) :
    (order.run n args).answer = .ok .self ∧ (order.run n args).notices = notices ∧
      (order.run n args).state.look (.option .inner "order") =
        some (some (.obj [(key, .str word)])) := by
  obtain ⟨held, hheld⟩ := h.exists_held
  have hwrite := n.writeOption_eq (.option .inner "order") (.obj [(key, .str word)])
  rw [hheld] at hwrite
  change n.writeOption .inner "order" _ = _ at hwrite
  simp only [run, Argument.isNull_of_text? hkey, Bool.false_eq_true, if_false, hdirection,
    Argument.name_of_text? hkey, hwrite]
  exact ⟨rfl, List.append_nil _, Node.look_put_self hheld _⟩

theorem run_order_notText (hgiven : (args.first ["direction"]).isNull = false)
    (hdirection : direction (args.get 1 "direction") = .error .directionNotText) :
    order.run n args = .failed n .directionNotText := by
  simp only [run, hgiven, Bool.false_eq_true, if_false, hdirection]

end BucketMethod

/-! ## Calls that store at spots -/

namespace Operation

/-- Whether an operation sets a sort order to a direction that may stand at a spot. -/
def directs (op : Operation) (s : Spot) (e : Enumeration) : Bool :=
  match op, e with
  | .sort (.direction word), .word words => s = .option .body "order" && words.contains word
  | _, _ => false

theorem exists_of_directs {op : Operation} {s : Spot} {e : Enumeration}
    (h : op.directs s e = true) : ∃ word words, op = .sort (.direction word) ∧
      s = .option .body "order" ∧ e = .word words ∧ word ∈ words := by
  unfold directs at h
  split at h
  · next word words =>
    simp only [Bool.and_eq_true, decide_eq_true_eq, List.contains_iff_mem] at h
    exact ⟨word, words, rfl, h.1, rfl, h.2⟩
  · cases h

/-- Whether an operation stores nothing at a spot but what may stand there. -/
def respects (op : Operation) (s : Spot) (e : Enumeration) : Bool :=
  op.enumeration? = some (s, e) || op.directs s e || (op.spots?.getD []).all (·.differs s)

end Operation

namespace Kind

/-- The kinds whose enumerated setters store at spots that every call leaves in place. -/
def enumeratesSpots (k : Kind) : Bool := k.isConcrete && k != .highlight

/-- In kinds whose words stand at spots every method respects every word. -/
theorem respects_methods {k : Kind} (hk : k.enumeratesSpots = true) :
    ∀ entry ∈ k.methods, ∀ item ∈ k.enumerations,
      (k.clears item.1 && entry.2.respects item.1 item.2) = true := by
  cases k with
  | query k => cases k <;> decide +kernel
  | filter k => cases k <;> decide +kernel
  | score k => cases k <;> decide +kernel
  | aggregation k => cases k <;> decide +kernel
  | facet k => cases k <;> decide +kernel
  | suggester k => cases k <;> decide +kernel
  | highlight => cases hk
  | _ => decide +kernel

end Kind

namespace Node

variable {n m : Node}

/-- A call that stores at spots of options keeps a node canonical. -/
theorem Canonical.run (h : n.Canonical) (hk : n.kind.enumeratesSpots = true) (hclear : n.Clear)
    {method : String} {op : Operation} (hop : Entries.get? n.kind.methods method = some op)
    {spots : List Spot} (hspots : op.spots? = some spots)
    (hclears : ∀ s ∈ spots, n.kind.clears s = true) (args : Arguments) :
    (op.run n args).state.Canonical := by
  intro s e hitem
  rw [op.run_kind] at hitem
  have htable := Kind.respects_methods hk _ (Entries.mem_of_get? hop) _ hitem
  obtain ⟨hs, hrespects⟩ := Bool.and_eq_true_iff.1 htable
  simp only [Operation.respects, Bool.or_eq_true, decide_eq_true_eq] at hrespects
  rcases hrespects with (henum | hdirects) | hdiffers
  · refine op.run_enumerated henum ?_ (h s e hitem) args
    rw [hspots]
    rfl
  · obtain ⟨word, words, rfl, rfl, rfl, hword⟩ := Operation.exists_of_directs hdirects
    exact (h _ _ hitem).writeOption (s := .option .body "order") ⟨word, hword, rfl⟩
  · rw [hspots] at hdiffers
    rw [hclear.look_run hspots hclears hs (List.all_eq_true.1 hdiffers)]
    exact h s e hitem

/-- A node with the same at all spots of options is as canonical. -/
theorem Canonical.of_look (h : n.Canonical) (hk : n.kind.enumeratesSpots = true)
    (hkind : m.kind = n.kind) (hlook : ∀ s, n.kind.clears s = true → m.look s = n.look s) :
    m.Canonical := by
  intro s e hitem
  rw [hkind] at hitem
  have hinspect : ("_type", Operation.inspect .tag) ∈ n.kind.methods :=
    List.mem_append_right _ List.mem_cons_self
  have htable := Kind.respects_methods hk _ hinspect _ hitem
  rw [hlook s (Bool.and_eq_true_iff.1 htable).1]
  exact h s e hitem

theorem canonical_of_nil (h : n.kind.enumerations = []) : n.Canonical := by
  intro s e hitem
  rw [h] at hitem
  exact absurd hitem List.not_mem_nil

end Node

/-! ## Frames -/

/-- The kinds that have no enumerated options, or keep theirs in the fragment itself. -/
def Kind.isUnframed (k : Kind) : Bool :=
  [suggester .completion, geoPoint, highlight, request].contains k

/-- The names under which the body of a node and its field stand, as far as they matter for what
calls do to its options. -/
inductive Node.Framed (n : Node) : Prop
  | clear : n.kind.isIndependent = true → n.kind ∉ Kind.withField → n.Clear → Framed n
  | tidy {members body : Entries Json} : n.kind.isIndependent = true → n.Tidy members body →
    n.inner ∉ n.kind.optionKeys → Framed n
  | clause {body : Entries Json} : n.kind = .sort → n.fragment = .obj [(n.slot, .obj body)] →
    n.inner ∉ n.kind.optionKeys → Framed n
  | unframed : n.kind.isUnframed = true → Framed n

/-- A canonical node in a frame that keeps it so. -/
structure Node.Orderly (n : Node) : Prop where
  framed : n.Framed
  canonical : n.Canonical

/-- A call gives no field the name of an option. -/
def Kind.SparesOptions (k : Kind) (method : String) (args : Arguments) : Prop :=
  k ∈ withField → isRename (method, args) = true → args.first.name ∉ k.optionKeys

namespace Node

variable {n : Node} {members body : Entries Json} {method : String} {args : Arguments}

/-- Kinds whose accessors are independent hold their words at spots. -/
theorem enumeratesSpots_of_isIndependent {k : Kind} (h : k.isIndependent = true) :
    k.enumeratesSpots = true := by
  obtain ⟨hconcrete, hkind⟩ := Bool.and_eq_true_iff.1 h
  refine Bool.and_eq_true_iff.2 ⟨hconcrete, ?_⟩
  cases k <;> first | rfl | cases hkind

/-- A call on a node without a field. -/
theorem Clear.call_orderly (h : n.Clear) (hn : n.Canonical) (hk : n.kind.isIndependent = true)
    (hfield : n.kind ∉ Kind.withField) (method : String) (args : Arguments) :
    (n.call method args).state.Orderly := by
  have hkind := n.call_kind method args
  refine ⟨.clear (hkind ▸ hk) (hkind ▸ hfield) (h.call hk hfield method args), ?_⟩
  unfold Node.call
  split
  · next op hop =>
    rcases Kind.method_spots hk hfield hop with ⟨spots, hspots, hclears⟩ | hlook
    · exact hn.run (enumeratesSpots_of_isIndependent hk) h hop hspots hclears args
    · cases op with
      | inspect i => exact (i.run_state n).symm ▸ hn
      | _ => cases hlook
  · exact hn

/-- A call on a node about a field: it stores at spots, it reads or it moves members. -/
theorem Tidy.call_orderly (h : n.Tidy members body) (hn : n.Canonical)
    (hk : n.kind.isIndependent = true) (hfree : n.inner ∉ n.kind.optionKeys)
    (hname : n.kind.SparesOptions method args) : (n.call method args).state.Orderly := by
  have hspots := enumeratesSpots_of_isIndependent hk
  have hstill : n.Orderly := ⟨.tidy hk h hfree, hn⟩
  -- What moves members keeps the settings, which are what is seen at the spots.
  have hmoved {m : Node} {members' body' : Entries Json} (hm : m.Tidy members' body')
      (hkind : m.kind = n.kind) (hfree' : m.inner ∉ n.kind.optionKeys)
      (hsettings : m.settings = n.settings) : m.Orderly := by
    refine ⟨.tidy (hkind ▸ hk) hm (hkind ▸ hfree'), hn.of_look hspots hkind fun s hs => ?_⟩
    rw [hm.look_eq (hkind ▸ hfree') (hkind ▸ hs), h.look_eq hfree hs, hsettings]
  unfold Node.call
  split
  · next op hop =>
    have hkind := op.run_kind n args
    rcases Kind.method_cases h.kind hop with
      ⟨spots, hop', hclears⟩ | (hlook | rfl) | ⟨rfl, hrename⟩ | ⟨hdecay, hcurve, rfl⟩ | ⟨hsort, -⟩
    · obtain ⟨writes, hwrites, hstate⟩ := op.run_writes hop' n args
      obtain ⟨_, _, htidy, -⟩ := h.puts fun write hwrite => hclears _ (hwrites write hwrite)
      refine ⟨.tidy (hkind ▸ hk) (hstate ▸ htidy) ?_, hn.run hspots (h.clear hfree) hop hop' hclears
        args⟩
      rw [hkind, hstate, puts_inner]
      exact hfree
    · cases op with
      | inspect i => exact (i.run_state n).symm ▸ hstill
      | _ => cases hlook
    · exact hstill
    · obtain ⟨f, rfl, hf⟩ : ∃ f, op = .field f ∧ (f = .rename ∧ n.kind.keepsField = true ∨
          f = .renameIfSet ∧ n.kind = .filter .geoDistance) := by
        rcases hrename with ⟨hop, hkeeps⟩ | ⟨hop, hkind⟩ | ⟨-, hkind⟩
        · exact ⟨_, hop, .inl ⟨rfl, hkeeps⟩⟩
        · exact ⟨_, hop, .inr ⟨rfl, hkind⟩⟩
        · rw [hkind] at hk
          cases hk
      cases hgiven : args.first.isNull with
      | true =>
        have hread : ((Operation.field f).run n args).state = n := by
          rcases hf with ⟨rfl, -⟩ | ⟨rfl, -⟩ <;> exact congrArg Outcome.state (if_pos hgiven)
        exact hread.symm ▸ hstill
      | false =>
        obtain ⟨_, _, htidy, hsettings, hinner, -⟩ := h.rename hf hgiven
        have hfree' := hname h.kind (by simp [isRename, hgiven])
        exact hmoved htidy hkind (hinner ▸ hfree') (hsettings hfree')
    · obtain ⟨htidy, hsettings, -, hinner⟩ := h.choose hdecay hcurve
      exact hmoved htidy hkind (hinner ▸ hfree) hsettings
    · rw [hsort] at hk
      cases hk
  · exact hstill

end Node

/-! ## Sort clauses -/

/-- The enumerated options of a sort clause stand in its body, none of them as its script. -/
theorem Kind.exists_of_mem_clause {s : Spot} {e : Enumeration} (h : (s, e) ∈ sort.enumerations) :
    ∃ key words, s = .option .body key ∧ e = .word words ∧ key ∈ sort.optionKeys ∧
      key ≠ "script" := by
  have htable : ∀ item ∈ sort.enumerations, item.1.place = .body ∧
      item.1.key "" ∈ sort.optionKeys ∧ item.1.key "" ≠ "script" ∧
      item.2 ≠ .order ∧ item.2 ≠ .fields := by decide +kernel
  obtain ⟨hplace, hkey, hscript, horder, hfields⟩ := htable _ h
  have hs := eq_option_of_mem h
  rw [hplace] at hs
  cases e with
  | word words => exact ⟨_, words, hs, rfl, hkey, hscript⟩
  | order => exact absurd rfl horder
  | fields => exact absurd rfl hfields

namespace Node

variable {n : Node} {body : Entries Json} {method : String} {args : Arguments}

/-- A clause is canonical if its body holds the words of sort clauses. -/
theorem clause_canonical_iff (hkind : n.kind = .sort)
    (hfragment : n.fragment = .obj [(n.slot, .obj body)]) :
    n.Canonical ↔ Kind.sort.Enumerates .body body := by
  refine ⟨fun h key words hitem value hvalue => ?_, fun h s e hitem => ?_⟩
  · have hallows := h _ _ (hkind ▸ hitem)
    rw [look_of_valueAt (HasMembers.valueAt_body hfragment), hvalue] at hallows
    exact hallows.admits
  · rw [hkind] at hitem
    obtain ⟨key, words, rfl, rfl, -⟩ := Kind.exists_of_mem_clause hitem
    rw [look_of_valueAt (HasMembers.valueAt_body hfragment)]
    cases hvalue : Entries.get? body key with
    | none => exact .empty
    | some value => exact .holds (h key words hitem value hvalue)

/-- A put below the fragment itself leaves one member with an object. -/
theorem put_envelope (h : n.fragment = .obj [(n.slot, .obj body)]) {s : Spot}
    (hs : s.place ≠ .root) (value : Json) :
    ∃ body', (n.put s value).fragment = .obj [(n.slot, .obj body')] := by
  obtain ⟨key, rest, hpath⟩ : ∃ key rest, n.spotPath s = n.slot :: key :: rest := by
    unfold spotPath path
    cases hplace : s.place with
    | root => exact absurd hplace hs
    | body | inner => exact ⟨_, _, rfl⟩
  obtain ⟨body', hput, -⟩ := Json.put_obj body key rest value
  refine ⟨body', ?_⟩
  unfold put
  have hslot : Entries.get? [(n.slot, Json.obj body)] n.slot = some (.obj body) := if_pos rfl
  rw [hpath, h, Json.put_cons_of_some (List.cons_ne_nil _ _) hslot, hput]
  exact congrArg Json.obj (if_pos rfl)

theorem puts_envelope (h : n.fragment = .obj [(n.slot, .obj body)])
    {writes : List (Spot × Json)} (hwrites : ∀ write ∈ writes, write.1.place ≠ .root) :
    ∃ body', (n.puts writes).fragment = .obj [(n.slot, .obj body')] := by
  induction writes generalizing n body with
  | nil => exact ⟨body, h⟩
  | cons write rest ih =>
    obtain ⟨body', hput⟩ := put_envelope h (hwrites write List.mem_cons_self) write.2
    exact @ih (n.put write.1 write.2) body' hput fun later hlater =>
      hwrites later (List.mem_cons_of_mem _ hlater)

/-- A clause whose enumerated options are those of another one. -/
theorem Canonical.clause (h : n.Canonical) (hkind : n.kind = .sort)
    (hfragment : n.fragment = .obj [(n.slot, .obj body)]) {slot inner : String}
    {body' : Entries Json} (hinner : inner ∉ n.kind.optionKeys)
    (hbody : ∀ key ∈ Kind.sort.optionKeys, key ≠ "script" → Entries.get? body' key = none ∨
      Entries.get? body' key = Entries.get? body key) :
    Orderly { n with fragment := .obj [(slot, .obj body')], slot, inner } := by
  refine ⟨.clause hkind rfl hinner, ?_⟩
  refine (@clause_canonical_iff { n with fragment := .obj [(slot, .obj body')], slot, inner } body'
    hkind rfl).2 fun key words hitem => ?_
  obtain ⟨key', _, heq, -, hkey, hscript⟩ := Kind.exists_of_mem_clause hitem
  cases heq
  rcases hbody key hkey hscript with hnone | hsame
  · rw [hnone]
    exact nofun
  · rw [hsame]
    exact (clause_canonical_iff hkind hfragment).1 h key words hitem

/-- A canonical clause is so under another name. -/
theorem Canonical.renameClause (h : n.Canonical) (hkind : n.kind = .sort)
    (hfragment : n.fragment = .obj [(n.slot, .obj body)]) (hfree : n.inner ∉ n.kind.optionKeys)
    {name : String} (hname : name ∉ n.kind.optionKeys) :
    (n.renameClause name).state.Orderly := by
  have hsame : ∀ key ∈ Kind.sort.optionKeys, key ≠ "script" → Entries.get? body key = none ∨
      Entries.get? body key = Entries.get? body key := fun _ _ _ => .inr rfl
  unfold Node.renameClause
  split
  · rw [renameInner_envelope hfragment]
    refine h.clause hkind hfragment hname fun key hkey _ => .inr ?_
    refine Entries.get?_rekey_of_ne body ?_ ?_ _
    · rintro rfl
      exact hfree (hkind ▸ hkey)
    · rintro rfl
      exact hname (hkind ▸ hkey)
  · split
    · have horderly : Orderly { n with fragment := .obj [(n.slot, .obj body)], inner := name } :=
        h.clause hkind hfragment hname hsame
      rw [← hfragment] at horderly
      exact horderly
    · rw [hfragment]
      simp only [Json.members?, Entries.rekey_one]
      exact h.clause hkind hfragment hname hsame

/-- Sorting by distance or by script begins the options anew; another script leaves the others as
they are. -/
theorem Canonical.run_switch (h : n.Canonical) (hkind : n.kind = .sort)
    (hfragment : n.fragment = .obj [(n.slot, .obj body)]) (hfree : n.inner ∉ n.kind.optionKeys)
    {m : SortMethod} (hm : m = .geoDistance ∨ m = .script) (args : Arguments) :
    (m.run n args).state.Orderly := by
  have hstill : n.Orderly := ⟨.clause hkind hfragment hfree, h⟩
  rcases hm with rfl | rfl
  · unfold SortMethod.run
    dsimp only
    split
    · rw [readThrough_state]
      exact hstill
    · split
      · refine h.clause hkind hfragment hfree fun key hkey _ => .inl (if_neg ?_)
        rintro rfl
        exact hfree (hkind ▸ hkey)
      · exact hstill
  · unfold SortMethod.run
    dsimp only
    split
    · rw [readThrough_state]
      exact hstill
    · split
      · rw [writeOption_envelope hfragment]
        exact h.clause hkind hfragment hfree fun key _ hscript =>
          .inr (Entries.get?_set_of_ne body (Ne.symm hscript) _)
      · exact h.clause hkind hfragment hfree fun key _ hscript => .inl (if_neg (Ne.symm hscript))

/-- What an operation writes at its spots leaves a clause in order. -/
theorem Canonical.run_at (h : n.Canonical) (hkind : n.kind = .sort)
    (hfragment : n.fragment = .obj [(n.slot, .obj body)]) (hfree : n.inner ∉ n.kind.optionKeys)
    {op : Operation} (hop : Entries.get? n.kind.methods method = some op) {spots : List Spot}
    (hspots : op.spots? = some spots) (hclears : ∀ s ∈ spots, n.kind.clears s = true) :
    (op.run n args).state.Orderly := by
  have hbeside : n.kind.besideKeys = [] := hkind ▸ by decide
  have hslot : n.slot ∉ n.kind.besideKeys := hbeside ▸ List.not_mem_nil
  have hplace : ∀ s ∈ spots, s.place ≠ .root := by
    intro s hs hplace
    have hs := hclears s hs
    cases s with
    | field => cases hplace
    | option place key =>
      cases hplace
      simp [Kind.clears, hbeside] at hs
  obtain ⟨writes, hwrites, hstate⟩ := op.run_writes hspots n args
  obtain ⟨body', hfragment'⟩ := puts_envelope hfragment fun write hmem =>
    hplace _ (hwrites write hmem)
  refine ⟨@Framed.clause _ body' ?_ ?_ ?_,
    h.run (hkind ▸ rfl) ⟨hslot, hfree⟩ hop hspots hclears args⟩
  · rw [op.run_kind, hkind]
  · rw [hstate, hfragment', puts_slot]
  · rw [op.run_kind, hstate, puts_inner]
    exact hfree

/-- A call on a sort clause. -/
theorem Canonical.call_clause (h : n.Canonical) (hkind : n.kind = .sort)
    (hfragment : n.fragment = .obj [(n.slot, .obj body)]) (hfree : n.inner ∉ n.kind.optionKeys)
    (hname : n.kind.SparesOptions method args) : (n.call method args).state.Orderly := by
  have hstill : n.Orderly := ⟨.clause hkind hfragment hfree, h⟩
  have hfield : n.kind ∈ Kind.withField := hkind ▸ by decide
  unfold Node.call
  split
  · next op hop =>
    rcases Kind.method_cases hfield hop with
      ⟨spots, hspots, hclears⟩ | (hlook | rfl) | ⟨rfl, hrename⟩ | ⟨hdecay, -⟩ | ⟨-, hswitch⟩
    · exact h.run_at hkind hfragment hfree hop hspots hclears
    · cases op with
      | inspect i => exact (i.run_state n).symm ▸ hstill
      | _ => cases hlook
    · exact hstill
    · obtain rfl : op = .sort .field := by
        rcases hrename with ⟨-, hkeeps⟩ | ⟨-, hdistance⟩ | ⟨hop, -⟩
        · rw [hkind] at hkeeps
          cases hkeeps
        · cases hkind.symm.trans hdistance
        · exact hop
      simp only [Operation.run, SortMethod.run]
      split
      · exact hstill
      · next hgiven =>
        exact h.renameClause hkind hfragment hfree (hname hfield (by simp [isRename, hgiven]))
    · cases hkind.symm.trans hdecay
    · obtain ⟨m, rfl, hm⟩ : ∃ m, op = .sort m ∧ (m = .geoDistance ∨ m = .script) := by
        rcases hswitch with rfl | rfl
        · exact ⟨_, rfl, .inl rfl⟩
        · exact ⟨_, rfl, .inr rfl⟩
      exact h.run_switch hkind hfragment hfree hm args
  · exact hstill

end Node

/-! ## Highlights -/

/-- Whether an operation stores under a key of a highlight what may stand there. -/
def Operation.highlights (op : Operation) (s : Spot) (e : Enumeration) : Bool :=
  match op with
  | .highlight .fields | .inspect _ => true
  | .highlight (.choice key words) | .accessor (.choice .root key words _) =>
    s != .option .root key || e = .word words
  | .highlight (.option key) | .highlight (.tags key) | .highlight (.settings key) =>
    s != .option .root key
  | _ => false

/-- An operation that stores under no enumerated option of a highlight what may not stand there. -/
def Operation.SparesEnumerations (op : Operation) : Prop :=
  ∀ item ∈ Kind.highlight.enumerations, op.highlights item.1 item.2 = true

namespace Kind

/-- The enumerated options of a highlight are its members. -/
theorem exists_of_mem_highlight {s : Spot} {e : Enumeration}
    (h : (s, e) ∈ highlight.enumerations) : ∃ key, s = .option .root key := by
  have htable : ∀ item ∈ highlight.enumerations, item.1.place = .root := by decide +kernel
  exact ⟨_, htable _ h ▸ eq_option_of_mem h⟩

theorem fields_mem : (.option .root "fields", .fields) ∈ highlight.enumerations := by decide +kernel

theorem eq_fields_of_mem {e : Enumeration}
    (h : (.option .root "fields", e) ∈ highlight.enumerations) : e = .fields := by
  have htable : ∀ item ∈ highlight.enumerations, item.1 = .option .root "fields" →
      item.2 = .fields := by decide +kernel
  exact htable _ h rfl

theorem highlights_methods : ∀ entry ∈ highlight.methods, entry.2.SparesEnumerations := by
  unfold Operation.SparesEnumerations
  decide +kernel

section

variable {key word : String} {value : Json} {words : List String}

/-- Anything may stand under a key that is no enumerated option. -/
theorem admits_of_free
    (hfree : ∀ item ∈ highlight.enumerations, (item.1 != .option .root key) = true)
    (e : Enumeration) (hitem : (.option .root key, e) ∈ highlight.enumerations) :
    e.Admits value :=
  absurd rfl (bne_iff_ne.1 (hfree _ hitem))

/-- One of the words may stand where they are all the words there are. -/
theorem admits_of_choice
    (hchoice : ∀ item ∈ highlight.enumerations,
      (item.1 != .option .root key || decide (item.2 = .word words)) = true)
    (hword : words.contains word = true) (e : Enumeration)
    (hitem : (.option .root key, e) ∈ highlight.enumerations) : e.Admits (.str word) := by
  have hsame := hchoice _ hitem
  simp only [bne_self_eq_false, Bool.false_or, decide_eq_true_eq] at hsame
  exact hsame ▸ ⟨word, List.contains_iff_mem.1 hword, rfl⟩

end

variable {k : Kind} {place : Place} {members : Entries Json} {key : String} {value : Json}

theorem Enumerates.set (h : k.Enumerates place members)
    (hvalue : ∀ e, (.option place key, e) ∈ k.enumerations → e.Admits value) :
    k.Enumerates place (Entries.set members key value) := by
  intro other words hitem held hheld
  rw [Entries.get?_set] at hheld
  split at hheld
  · next hkey =>
    cases hheld
    exact hvalue (.word words) (hkey ▸ hitem)
  · exact h other words hitem held hheld

theorem enumerates_nil (k : Kind) (place : Place) : k.Enumerates place [] := fun _ _ _ _ => nofun

end Kind

namespace Enumeration

variable {fields options : Entries Json}

theorem admits_empty : Enumeration.fields.Admits .empty := ⟨[], rfl, fun _ _ => nofun⟩

/-- Options of one more field, or others of the same. -/
theorem Admits.setField (h : Enumeration.fields.Admits (.obj fields)) (field : String)
    (hoptions : Kind.highlight.Enumerates .root options) :
    Enumeration.fields.Admits (.obj (Entries.set fields field (.obj options))) := by
  obtain ⟨_, heq, hfields⟩ := h
  obtain rfl := Json.obj.inj heq
  refine ⟨_, rfl, fun other held hheld => ?_⟩
  rw [Entries.get?_set] at hheld
  split at hheld
  · cases hheld
    exact ⟨options, rfl, hoptions⟩
  · exact hfields other held hheld

end Enumeration

namespace Node

variable {n : Node} {members fields : Entries Json} {key : String} {value : Json}

/-- A canonical highlight that holds fields. -/
structure HoldsFields (n : Node) (members fields : Entries Json) : Prop where
  kind : n.kind = .highlight
  canonical : n.Canonical
  fragment : n.fragment = .obj members
  held : Entries.get? members "fields" = some (.obj fields)

theorem Canonical.exists_members (h : n.Canonical) (hkind : n.kind = .highlight) :
    ∃ members, n.fragment = .obj members := by
  obtain ⟨held, hheld⟩ := (h _ _ (hkind ▸ Kind.fields_mem)).exists_held
  obtain ⟨members, hmembers, -⟩ := exists_members_of_look hheld
  exact ⟨members, hmembers⟩

theorem Canonical.setRoot (h : n.Canonical) (hkind : n.kind = .highlight)
    (hfragment : n.fragment = .obj members)
    (hvalue : ∀ e, (.option .root key, e) ∈ Kind.highlight.enumerations → e.Admits value) :
    Canonical { n with fragment := .obj (Entries.set members key value) } := by
  intro s e hitem
  have hallows := h s e hitem
  change (s, e) ∈ n.kind.enumerations at hitem
  rw [hkind] at hitem
  obtain ⟨other, rfl⟩ := Kind.exists_of_mem_highlight hitem
  rw [look_of_fragment rfl, Entries.get?_set]
  rw [look_of_fragment hfragment] at hallows
  split
  · next hkey => exact .holds (hvalue e (hkey ▸ hitem))
  · exact hallows

namespace HoldsFields

theorem admits (h : n.HoldsFields members fields) : Enumeration.fields.Admits (.obj fields) := by
  have hallows := h.canonical _ _ (h.kind ▸ Kind.fields_mem)
  rw [look_of_fragment h.fragment, h.held] at hallows
  exact hallows.admits

/-- Other fields in the place of those that are there. -/
theorem set (h : n.HoldsFields members fields) {others : Entries Json}
    (hothers : Enumeration.fields.Admits (.obj others)) :
    HoldsFields { n with fragment := .obj (Entries.set members "fields" (.obj others)) }
      (Entries.set members "fields" (.obj others)) others where
  kind := h.kind
  canonical := by
    refine h.canonical.setRoot h.kind h.fragment fun e hitem => ?_
    obtain rfl := Kind.eq_fields_of_mem hitem
    exact hothers
  fragment := rfl
  held := Entries.get?_set_self _ _ _

end HoldsFields

/-- The fields of a highlight are begun if there are none. -/
theorem Canonical.openFields (h : n.Canonical) (hkind : n.kind = .highlight) :
    ∃ opened members fields, n.openSlot .root "fields" .empty = .ok opened ∧
      opened.HoldsFields members fields := by
  obtain ⟨members, hfragment⟩ := h.exists_members hkind
  have hopen : n.openSlot .root "fields" .empty =
      .ok { n with fragment := .obj (Entries.setDefault members "fields" .empty) } := by
    unfold openSlot
    rw [show n.valueAt .root = .obj members from hfragment]
    rfl
  cases hheld : Entries.get? members "fields" with
  | none =>
    rw [Entries.setDefault_of_absent hheld] at hopen
    refine ⟨_, Entries.set members "fields" .empty, [], hopen, hkind, ?_, rfl,
      Entries.get?_set_self _ _ _⟩
    refine h.setRoot hkind hfragment fun e hitem => ?_
    obtain rfl := Kind.eq_fields_of_mem hitem
    exact Enumeration.admits_empty
  | some value =>
    rw [Entries.setDefault_of_get? hheld, ← hfragment] at hopen
    have hallows := h _ _ (hkind ▸ Kind.fields_mem)
    rw [look_of_fragment hfragment, hheld] at hallows
    obtain ⟨fields, rfl, -⟩ := hallows.admits
    exact ⟨n, members, fields, hopen, hkind, h, hfragment, hheld⟩

/-- A field is added with no options, unless it is there. -/
theorem Canonical.addField (h : n.Canonical) (hkind : n.kind = .highlight) (field : String) :
    ∃ m members fields options, n.addField field = .ok m ∧ m.HoldsFields members fields ∧
      Entries.get? fields field = some (.obj options) ∧
      Kind.highlight.Enumerates .root options := by
  obtain ⟨opened, members, fields, hopen, hholds⟩ := h.openFields hkind
  have hadded : n.addField field = .ok { opened with fragment := .obj (Entries.set members "fields"
      (.obj (Entries.setDefault fields field .empty))) } := by
    unfold Node.addField
    simp only [hopen, hholds.fragment, Json.member_of_get? hholds.held]
    rfl
  cases hheld : Entries.get? fields field with
  | none =>
    rw [Entries.setDefault_of_absent hheld] at hadded
    exact ⟨_, _, _, [], hadded,
      hholds.set (hholds.admits.setField field (Kind.highlight.enumerates_nil .root)),
      Entries.get?_set_self _ _ _, Kind.highlight.enumerates_nil .root⟩
  | some value =>
    obtain ⟨_, heq, hfields⟩ := hholds.admits
    obtain rfl := Json.obj.inj heq
    obtain ⟨options, rfl, hoptions⟩ := hfields field _ hheld
    rw [Entries.setDefault_of_get? hheld] at hadded
    exact ⟨_, _, _, options, hadded, hholds.set hholds.admits, hheld, hoptions⟩

theorem Canonical.addFields (h : n.Canonical) (hkind : n.kind = .highlight)
    (names : List String) :
    ∃ m, names.foldlM Node.addField n = .ok m ∧ m.kind = .highlight ∧ m.Canonical := by
  induction names generalizing n with
  | nil => exact ⟨n, rfl, hkind, h⟩
  | cons name rest ih =>
    obtain ⟨added, _, _, _, hadd, hholds, -⟩ := h.addField hkind name
    obtain ⟨m, hrest, hm⟩ := ih hholds.canonical hholds.kind
    refine ⟨m, ?_, hm⟩
    rw [List.foldlM_cons, hadd]
    exact hrest

/-- An option is stored for all fields or for one. -/
theorem Canonical.writeHighlight (h : n.Canonical) (hkind : n.kind = .highlight)
    (hvalue : ∀ e, (.option .root key, e) ∈ Kind.highlight.enumerations → e.Admits value)
    (field : Option String) : (n.writeHighlight key field value).state.Canonical := by
  unfold Node.writeHighlight
  cases field with
  | none =>
    obtain ⟨members, hfragment⟩ := h.exists_members hkind
    unfold Node.writeOption
    rw [show n.valueAt .root = .obj members from hfragment]
    exact h.setRoot hkind hfragment hvalue
  | some name =>
    obtain ⟨m, members, fields, options, hadd, hholds, hget, hoptions⟩ := h.addField hkind name
    simp only [hadd, hholds.fragment, Json.member_of_get? hholds.held, Json.member_of_get? hget]
    exact (hholds.set (hholds.admits.setField name (hoptions.set hvalue))).canonical

/-- A method of highlights that spares the words keeps them canonical. -/
theorem Canonical.run_highlightMethod (h : n.Canonical) (hkind : n.kind = .highlight)
    {m : HighlightMethod} (hop : (Operation.highlight m).SparesEnumerations) (args : Arguments) :
    (m.run n args).state.Canonical := by
  cases m with
  | fields =>
    simp only [HighlightMethod.run]
    split
    · exact (n.readOption_state .root "fields").symm ▸ h
    · obtain ⟨opened, _, _, hopen, hholds⟩ := h.openFields hkind
      rw [hopen]
      dsimp only
      split
      · exact hholds.canonical
      · next names _ =>
        obtain ⟨m, hm, -, hcanonical⟩ := hholds.canonical.addFields hholds.kind names
        rw [hm]
        exact hcanonical
  | option key =>
    simp only [HighlightMethod.run]
    split
    · exact (n.readThrough_state _).symm ▸ h
    · exact h.writeHighlight hkind (Kind.admits_of_free hop) _
  | choice key words =>
    simp only [HighlightMethod.run]
    split
    · exact (n.readThrough_state _).symm ▸ h
    · split
      · exact h
      · split
        · next hword => exact h.writeHighlight hkind (Kind.admits_of_choice hop hword) _
        · exact h
  | tags key | settings key =>
    simp only [HighlightMethod.run]
    split
    · exact (n.readThrough_state _).symm ▸ h
    · split
      · exact h.writeHighlight hkind (Kind.admits_of_free hop) _
      · exact h

/-- A call on a highlight that spares the words keeps them canonical. -/
theorem Canonical.run_highlight (h : n.Canonical) (hkind : n.kind = .highlight) {op : Operation}
    (hop : op.SparesEnumerations) (args : Arguments) : (op.run n args).state.Canonical := by
  have hfields := hop _ Kind.fields_mem
  cases op with
  | highlight m => exact h.run_highlightMethod hkind hop args
  | accessor a =>
    cases a with
    | choice place key words folding =>
      cases place with
      | root =>
        simp only [Operation.run, Accessor.run]
        split
        · exact (n.readOption_state .root key).symm ▸ h
        · simp only [Accessor.write]
          split
          · exact h
          · split
            · next hword => exact h.writeHighlight hkind (Kind.admits_of_choice hop hword) none
            · exact h
      | _ => cases hfields
    | _ => cases hfields
  | inspect i => exact (i.run_state n).symm ▸ h
  | _ => cases hfields

end Node

end SearchBuilder
