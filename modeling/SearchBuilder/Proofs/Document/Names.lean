import SearchBuilder.Proofs.Document.Highlights
import SearchBuilder.Proofs.Document.Interference
import SearchBuilder.Request

/-!
# Lists of names

Some slots hold a list of names: of fields, types or documents. A setter of such a slot takes a text
or a list of texts and refuses anything else, so no call puts anything but texts there
(`Node.HoldsNames.call`). One setter takes any list and never looks at its items
(`FieldMethod.fieldList`); its slot holds a list, and that is all.

The tags of a highlight are lists of names too, for all fields and for single ones. What the
highlight stores is known from its calls (`Highlighting.Shows`), so only these are looked at.
-/

namespace SearchBuilder

/-! ## Setters -/

/-- What a setter of a list of names asks of its argument. -/
inductive NameCheck where
  /-- A text or a list of texts. -/
  | texts
  /-- A list, whatever its items are. -/
  | list
  deriving DecidableEq

namespace NameCheck

/-- Whether a setter takes an argument. -/
def passes (v : Argument) : NameCheck → Bool
  | texts => v.names?.isSome
  | list => v.items?.isSome

/-- An argument fails the check for texts if it is no text and no list of them. -/
theorem passes_texts {v : Argument} : texts.passes v = false ↔ v.names? = none := by
  rw [passes, Option.isSome_eq_false_iff, Option.isNone_iff_eq_none]

theorem passes_list {v : Argument} : list.passes v = false ↔ v.items? = none := by
  rw [passes, Option.isSome_eq_false_iff, Option.isNone_iff_eq_none]

/-- Whether a value may be what a setter has stored. -/
def Admits : NameCheck → Json → Prop
  | texts, value => ∃ names, value = .ofStrings names
  | list, value => ∃ items, value = .arr items

/-- A slot is there, and it is empty or holds what a setter may have stored. -/
def Holds (c : NameCheck) (seen : Option (Option Json)) : Prop :=
  ∃ held, seen = some held ∧ ∀ value, held = some value → c.Admits value

theorem Holds.empty {c : NameCheck} : c.Holds (some none) := ⟨none, rfl, fun _ h => by cases h⟩

theorem Holds.stored {c : NameCheck} {value : Json} (h : c.Admits value) :
    c.Holds (some (some value)) :=
  ⟨_, rfl, fun _ heq => Option.some.inj heq ▸ h⟩

end NameCheck

/-- A slot for a list of names. -/
structure NameSlot where
  spot : Spot
  check : NameCheck
  /-- What is said of an argument that does not pass. -/
  blame : Misuse
  deriving DecidableEq

/-- The slot of a setter of a list of names. -/
def Operation.nameSlot? : Operation → Option NameSlot
  | .accessor (.names place key what) | .accessor (.growingNames place key what)
  | .accessor (.heldNames place key what) => some ⟨.option place key, .texts, .notNames what⟩
  | .field .fieldList => some ⟨.option .body "fields", .list, .notFieldList⟩
  | _ => none

theorem Argument.text?_of_names? {v : Argument} (h : v.names? = none) : v.text? = none := by
  cases v with
  | plain value => cases value <;> first | rfl | cases h
  | _ => rfl

namespace Operation

variable {op : Operation} {slot : NameSlot} {n : Node} {args : Arguments}

/-- An argument that does not pass is refused. -/
theorem run_names_refused (hop : op.nameSlot? = some slot) (hgiven : args.first.isNull = false)
    (hfails : slot.check.passes args.first = false) : op.run n args = .refused n slot.blame := by
  cases op with
  | accessor a =>
    cases a with
    | names | growingNames | heldNames =>
      cases hop
      have hnames := NameCheck.passes_texts.1 hfails
      have htext := Argument.text?_of_names? hnames
      simp only [run, Accessor.run, hgiven, Bool.false_eq_true, if_false, Accessor.write, hnames,
        htext]
    | _ => cases hop
  | field m =>
    cases m with
    | fieldList =>
      cases hop
      have hitems := NameCheck.passes_list.1 hfails
      simp only [run, FieldMethod.run, hgiven, Bool.false_eq_true, if_false, hitems]
    | _ => cases hop
  | _ => cases hop

end Operation

/-! ## What setters store -/

namespace NameCheck.Holds

variable {c : NameCheck} {n : Node} {s : Spot}

theorem writeOption (h : c.Holds (n.look s)) {value : Json} (hvalue : c.Admits value) :
    c.Holds ((n.writeOption s.place (s.key n.inner) value).state.look s) := by
  obtain ⟨held, hheld, -⟩ := h
  rw [n.writeOption_eq, hheld]
  exact (Node.look_put_self hheld value).symm ▸ stored hvalue

/-- One more name is put after those that are there, or begins the list. -/
theorem appendItem (h : texts.Holds (n.look s)) (name : String) :
    texts.Holds ((n.appendItem s.place (s.key n.inner) fun _ => .str name).state.look s) := by
  obtain ⟨held, hheld, hadmits⟩ := h
  have hnames : ∃ names, held.getD (.arr []) = .ofStrings names := by
    cases held with
    | none => exact ⟨[], rfl⟩
    | some value => exact hadmits value rfl
  obtain ⟨names, hnames⟩ := hnames
  have hopened := Node.look_opened hheld (.arr [])
  rw [n.appendItem_eq, hheld]
  simp only [hnames, Json.ofStrings]
  refine (Node.look_put_self hopened _).symm ▸ stored ⟨names ++ [name], ?_⟩
  rw [Json.ofStrings, List.map_append]
  rfl

theorem appendHeld (h : texts.Holds (n.look s)) (name : String) :
    texts.Holds ((n.appendHeld s.place (s.key n.inner) (.str name)).state.look s) := by
  have hbefore := h
  obtain ⟨held, hheld, hadmits⟩ := h
  rw [n.appendHeld_eq, hheld]
  cases held with
  | none => exact hbefore
  | some value =>
    obtain ⟨names, rfl⟩ := hadmits value rfl
    refine (Node.look_put_self hheld _).symm ▸ stored ⟨names ++ [name], ?_⟩
    rw [Json.ofStrings, List.map_append]
    rfl

end NameCheck.Holds

/-- A setter leaves in its slot what it may have stored. -/
theorem Operation.run_names {op : Operation} {slot : NameSlot} (hop : op.nameSlot? = some slot)
    {n : Node} (h : slot.check.Holds (n.look slot.spot)) (args : Arguments) :
    slot.check.Holds ((op.run n args).state.look slot.spot) := by
  cases op with
  | accessor a =>
    cases a with
    | names place key what =>
      cases hop
      simp only [run, Accessor.run]
      split
      · exact (n.readOption_state place key).symm ▸ h
      · simp only [Accessor.write]
        split
        · exact h.writeOption ⟨_, rfl⟩
        · exact h
    | growingNames place key what =>
      cases hop
      simp only [run, Accessor.run]
      split
      · exact (n.readOption_state place key).symm ▸ h
      · simp only [Accessor.write]
        split
        · exact h.appendItem _
        · split
          · exact h.writeOption ⟨_, rfl⟩
          · exact h
    | heldNames place key what =>
      cases hop
      simp only [run, Accessor.run]
      split
      · exact (n.readHeld_state place key).symm ▸ h
      · simp only [Accessor.write]
        split
        · exact h.appendHeld _
        · split
          · exact h.writeOption ⟨_, rfl⟩
          · exact h
    | _ => cases hop
  | field m =>
    cases m with
    | fieldList =>
      cases hop
      simp only [run, FieldMethod.run]
      split
      · exact (n.readOption_state .body "fields").symm ▸ h
      · split
        · next items hitems =>
          refine h.writeOption (s := .option .body "fields") ⟨items.map (·.toJson n), ?_⟩
          simp only [FieldMethod.termsOf, hitems]
        · exact h
    | _ => cases hop
  | _ => cases hop

/-- A list is stored as it is by the setter that does not look at its items. -/
theorem Operation.run_fieldList_items {n : Node} {args : Arguments} {items : List Argument}
    (h : NameCheck.list.Holds (n.look (.option .body "fields")))
    (hitems : args.first.items? = some items) :
    ((field .fieldList).run n args).answer = .ok .self ∧
      ((field .fieldList).run n args).state.look (.option .body "fields") =
        some (some (.arr (items.map (·.toJson n)))) := by
  obtain ⟨held, hheld, -⟩ := h
  have hgiven : args.first.isNull = false := by
    cases hv : args.first with
    | plain value =>
      rw [hv] at hitems
      cases value <;> first | rfl | cases hitems
    | _ => rfl
  have hwrite := n.writeOption_eq (.option .body "fields") (.arr (items.map (·.toJson n)))
  rw [hheld] at hwrite
  change n.writeOption .body "fields" _ = _ at hwrite
  simp only [run, FieldMethod.run, hgiven, Bool.false_eq_true, if_false, hitems,
    FieldMethod.termsOf, hwrite]
  exact ⟨rfl, Node.look_put_self hheld _⟩

/-! ## Kinds -/

/-- A setter of a list of names: the kind that has it, its method and its slot. -/
structure NameSetter where
  kind : Kind
  method : String
  slot : NameSlot
  deriving DecidableEq

/-- The setters of lists of names. -/
def nameSetters : List NameSetter :=
  [⟨.query .multiField, "fields", ⟨.option .body "fields", .texts, .notNames "fields"⟩⟩,
    ⟨.query .ids, "values", ⟨.option .body "values", .texts, .notNames "ids"⟩⟩,
    ⟨.query .ids, "type", ⟨.option .body "type", .texts, .notNames "type"⟩⟩,
    ⟨.filter .ids, "values", ⟨.option .body "values", .texts, .notNames "ids"⟩⟩,
    ⟨.filter .ids, "type", ⟨.option .body "type", .texts, .notNames "type"⟩⟩,
    ⟨.facet .terms, "fields", ⟨.option .inner "fields", .texts, .notNames "fields"⟩⟩,
    ⟨.facet .terms, "exclude", ⟨.option .inner "exclude", .texts, .notNames "exclude"⟩⟩,
    ⟨.facet .statistical, "fields", ⟨.option .inner "fields", .texts, .notNames "fields"⟩⟩,
    ⟨.request, "fields", ⟨.option .root "fields", .texts, .notNames "fields"⟩⟩,
    ⟨.query .queryString, "fields", ⟨.option .body "fields", .list, .notFieldList⟩⟩]

namespace NameSetter

variable {m : NameSetter}

/-- The catalog has the setters, and they are neither about the target of a request nor searches. -/
theorem exists_operation (hm : m ∈ nameSetters) :
    ∃ op, Entries.get? m.kind.methods m.method = some op ∧ op.nameSlot? = some m.slot ∧
      Entries.get? Request.targetMethods m.method = none ∧ m.method ≠ "do_search" := by
  have htable : ∀ m ∈ nameSetters,
      (Entries.get? m.kind.methods m.method).bind Operation.nameSlot? = some m.slot ∧
        Entries.get? Request.targetMethods m.method = none ∧ m.method ≠ "do_search" := by
    decide
  obtain ⟨hop, hrest⟩ := htable m hm
  obtain ⟨op, hget, hslot⟩ := Option.bind_eq_some_iff.1 hop
  exact ⟨op, hget, hslot, hrest⟩

/-- Whether a spot is apart from the slot of a setter where no name is in the way of an option. -/
def isBeside (m : NameSetter) (s : Spot) : Bool :=
  s.differs m.slot.spot &&
    (s.place = .root && m.slot.spot.place = .root || m.kind.clears s && m.kind.clears m.slot.spot)

/-- Every method of a kind that has a setter of names stores beside its slot, unless it is such a
setter itself or only looks. -/
theorem method_cases (hm : m ∈ nameSetters) {method : String} {op : Operation}
    (hop : Entries.get? m.kind.methods method = some op) :
    (∃ spots, op.spots? = some spots ∧
        (op.nameSlot? = some m.slot ∨ ∀ s ∈ spots, m.isBeside s = true)) ∨
      op.isInspection = true := by
  have htable : ∀ m ∈ nameSetters, ∀ entry ∈ m.kind.methods,
      ((entry.2.spots?.any fun spots => entry.2.nameSlot? = some m.slot || spots.all m.isBeside) ||
        entry.2.isInspection) = true := by
    decide
  refine (Bool.or_eq_true_iff.1 (htable m hm _ (Entries.mem_of_get? hop))).imp_left fun hspots => ?_
  cases hop : op.spots? with
  | none =>
    rw [hop] at hspots
    cases hspots
  | some spots =>
    rw [hop, Option.any_some, Bool.or_eq_true, decide_eq_true_eq, List.all_eq_true] at hspots
    exact ⟨spots, rfl, hspots⟩

end NameSetter

/-! ## Nodes -/

namespace Node

variable {n : Node} {m : NameSetter}

/-- A spot beside the body parts from the slot of names. -/
theorem Clear.apart_of_isBeside (h : n.Clear) (hkind : n.kind = m.kind) {s : Spot}
    (hs : m.isBeside s = true) : (n.spotPath s).Apart (n.spotPath m.slot.spot) := by
  simp only [NameSetter.isBeside, Bool.and_eq_true, Bool.or_eq_true, decide_eq_true_eq] at hs
  obtain ⟨hdiffers, ⟨hroot, hroot'⟩ | ⟨hclears, hclears'⟩⟩ := hs
  · -- Members of the fragment itself are apart if their keys differ, whatever stands around them.
    cases s with
    | field => cases hroot
    | option place key =>
      cases htarget : m.slot.spot with
      | field =>
        rw [htarget] at hroot'
        cases hroot'
      | option place' key' =>
        obtain rfl : place = .root := hroot
        obtain rfl : place' = .root := by rwa [htarget] at hroot'
        rw [htarget] at hdiffers
        exact Path.apart_of_ne [] (bne_iff_ne.1 hdiffers)
  · rw [← hkind] at hclears hclears'
    exact h.apart hclears hclears' hdiffers

/-- Where the names of a node are in order: the slots of its setters hold what these may have
stored. -/
structure NamesHeld (n : Node) : Prop where
  clear : n.Clear
  holds : ∀ m ∈ nameSetters, n.kind = m.kind → m.slot.check.Holds (n.look m.slot.spot)

/-- A call on a node of a kind with setters of names keeps its names in order. -/
theorem NamesHeld.call (h : n.NamesHeld) (hm : m ∈ nameSetters) (hkind : n.kind = m.kind)
    (method : String) (args : Arguments) : (n.call method args).state.NamesHeld := by
  unfold Node.call
  split
  · next op hop =>
    have hcases {m : NameSetter} (hm : m ∈ nameSetters) (hkind : n.kind = m.kind) :=
      NameSetter.method_cases hm (hkind ▸ hop)
    refine ⟨?_, fun m' hm' hkind' => ?_⟩
    · rcases hcases hm hkind with ⟨spots, hspots, -⟩ | hlook
      · exact h.clear.run (Option.isSome_iff_exists.2 ⟨spots, hspots⟩) args
      · cases op with
        | inspect i => exact (i.run_state n).symm ▸ h.clear
        | _ => cases hlook
    · rw [op.run_kind] at hkind'
      have hheld := h.holds m' hm' hkind'
      rcases hcases hm' hkind' with ⟨spots, hspots, hsetter | hbeside⟩ | hlook
      · exact Operation.run_names hsetter hheld args
      · obtain ⟨writes, hwrites, hstate⟩ := op.run_writes hspots n args
        rw [hstate, look_puts_of_apart fun write hwrite =>
          h.clear.apart_of_isBeside hkind' (hbeside _ (hwrites write hwrite))]
        exact hheld
      · cases op with
        | inspect i => exact (i.run_state n).symm ▸ hheld
        | _ => cases hlook
  · exact h

/-! ### Construction -/

theorem envelope_look (k : Kind) (slot : String) (body : Entries Json) (key : String) :
    (envelope k slot body).look (.option .body key) = some (Entries.get? body key) :=
  look_of_valueAt (HasMembers.valueAt_body rfl) key

theorem nestedEnvelope_look (k : Kind) (slot inner : String) (options : Entries Json)
    (key : String) : (nestedEnvelope k slot inner options).look (.option .inner key) =
      some (Entries.get? options key) := by
  have hinner : (nestedEnvelope k slot inner options).valueAt .inner = .obj options :=
    HasMembers.valueAt_inner rfl (if_pos rfl)
  exact look_of_valueAt hinner key

/-- A new node has the names that it is built from, if any. -/
theorem build_holds (hm : m ∈ nameSetters) (args : Arguments) :
    m.slot.check.Holds ((m.kind.build args).state.look m.slot.spot) := by
  simp only [nameSetters, List.mem_cons, List.not_mem_nil, or_false] at hm
  rcases hm with rfl | rfl | rfl | rfl | rfl | rfl | rfl | rfl | rfl | rfl
  · simp only [Kind.build, QueryKind.build]
    split
    · next names _ => exact (envelope_look ..).symm ▸ .stored ⟨names, rfl⟩
    · exact (envelope_look ..).symm ▸ .empty
  · simp only [Kind.build, QueryKind.build]
    split
    · next names _ => exact (envelope_look ..).symm ▸ .stored ⟨names, rfl⟩
    · exact (envelope_look ..).symm ▸ .empty
  · simp only [Kind.build, QueryKind.build]
    split <;> exact (envelope_look ..).symm ▸ .empty
  · simp only [Kind.build, FilterKind.build]
    split
    · next names _ => exact (envelope_look ..).symm ▸ .stored ⟨names, rfl⟩
    · exact (envelope_look ..).symm ▸ .empty
  · simp only [Kind.build, FilterKind.build]
    split <;> exact (envelope_look ..).symm ▸ .empty
  · exact (nestedEnvelope_look ..).symm ▸ .empty
  · exact (nestedEnvelope_look ..).symm ▸ .empty
  · exact (nestedEnvelope_look ..).symm ▸ .empty
  · exact .empty
  · exact (envelope_look ..).symm ▸ .empty

/-- The kinds with setters of names are built with none. -/
theorem build_namesHeld (hm : m ∈ nameSetters) (args : Arguments) :
    (m.kind.build args).state.NamesHeld where
  clear := by
    have htable : ∀ m ∈ nameSetters, m.kind ∉ Kind.withField ∧
        (m.kind.isIndependent = true ∨ m.kind = .request) := by decide
    obtain ⟨hfield, hindependent | hrequest⟩ := htable m hm
    · exact Kind.build_clear hindependent hfield args
    · have hempty : ({ kind := .request, fragment := .empty } : Node).Clear :=
        ⟨by decide, by decide⟩
      rw [hrequest]
      exact hempty
  holds := by
    intro m' hm' hkind
    rw [Kind.build_kind] at hkind
    rw [hkind]
    exact build_holds hm' args

end Node

/-! ## Tags of highlights -/

/-- The options of a highlight that are lists of names. -/
def tagKeys : List String := ["pre_tags", "post_tags"]

/-- All tags that a highlight stores are lists of texts. -/
def Highlighting.Tagged (s : Highlighting) : Prop :=
  ∀ key ∈ tagKeys, ∀ field value, s.options key field = some value →
    ∃ names, value = .ofStrings names

/-- Whatever is stored for tags is a list of texts. -/
theorem Node.exists_of_tagEvent {n : Node} {call : String × Arguments} {key : String}
    {field : Option String} {value : Json} (hkey : key ∈ tagKeys)
    (h : n.highlightEvent? call = some (.option key field value)) :
    ∃ names, value = .ofStrings names := by
  have htable : ∀ key ∈ tagKeys, Entries.get? highlightForms key = some .texts := by decide
  unfold Node.highlightEvent? at h
  split at h
  · dsimp only at h
    split at h
    · cases h
    · obtain ⟨_, -, hfields⟩ := Option.map_eq_some_iff.1 h
      cases hfields
  · obtain ⟨form, hform, hgiven⟩ := Option.bind_eq_some_iff.1 h
    split at hgiven
    · cases hgiven
    · obtain ⟨stored, hstored, hevent⟩ := Option.map_eq_some_iff.1 hgiven
      cases hevent
      obtain rfl : form = .texts := Option.some.inj (hform.symm.trans (htable _ hkey))
      obtain ⟨names, -, hnames⟩ := Option.map_eq_some_iff.1 hstored
      exact ⟨names, hnames.symm⟩

/-- Events of highlights keep their tags texts. -/
theorem Highlighting.Tagged.step {s : Highlighting} (h : s.Tagged) {n : Node}
    {call : String × Arguments} {event : HighlightEvent}
    (hevent : n.highlightEvent? call = some event) : (s.step event).Tagged := by
  intro key hkey field value hvalue
  rcases Option.or_eq_some_iff.1 hvalue with hnow | ⟨-, hbefore⟩
  · cases event with
    | fields => cases hnow
    | option key' field' value' =>
      obtain ⟨⟨rfl, rfl⟩, hsame⟩ := Option.ite_none_right_eq_some.1 hnow
      cases hsame
      exact Node.exists_of_tagEvent hkey hevent
  · exact h key hkey field value hbefore

/-- A highlight that shows a store whose tags are lists of texts. -/
def Node.TagsHeld (n : Node) : Prop :=
  ∃ (s : Highlighting) (members fields : Entries Json),
    n = .highlight members ∧ s.Shows members fields ∧ s.Tagged

/-- A call on a highlight keeps its tags texts. -/
theorem Node.TagsHeld.call {n : Node} (h : n.TagsHeld) (method : String) (args : Arguments) :
    (n.call method args).state.TagsHeld := by
  obtain ⟨s, members, fields, rfl, hshows, htagged⟩ := h
  have hcall := hshows.call (method, args)
  cases hevent : (Node.highlight members).highlightEvent? (method, args) with
  | none =>
    rw [hevent] at hcall
    obtain ⟨-, members', fields', hstate, hnext⟩ := hcall
    exact ⟨s, members', fields', hstate, hnext, htagged⟩
  | some event =>
    rw [hevent] at hcall
    obtain ⟨-, members', fields', hstate, hnext⟩ := hcall
    exact ⟨_, members', fields', hstate, hnext, htagged.step hevent⟩

theorem Node.build_tagsHeld (args : Arguments) : (Kind.highlight.build args).state.TagsHeld := by
  have hempty : (Node.highlight []).TagsHeld :=
    ⟨{}, [], [], rfl, Highlighting.Shows.start, fun _ _ _ _ h => by cases h⟩
  exact hempty.call "fields" (.one args.first)

/-- The tags that a highlight has for all fields or for one. -/
theorem Node.TagsHeld.part? {n : Node} (h : n.TagsHeld) {key : String} (hkey : key ∈ tagKeys)
    (field : Option String) {value : Json}
    (hvalue : n.fragment.part? (Node.highlightPath key field) = some value) :
    ∃ names, value = .ofStrings names := by
  obtain ⟨s, members, fields, rfl, hshows, htagged⟩ := h
  have hne : key ≠ "fields" := by
    rintro rfl
    exact absurd hkey (by decide)
  have hread : (Node.highlight members).fragment.part? _ = _ := hshows.part?_option hne field
  exact htagged key hkey field value (hread.symm.trans hvalue)

/-- What is neither a text nor a list of texts is refused as tags. -/
theorem Node.call_tags_refused {n : Node} (hkind : n.kind = .highlight) {key : String}
    (hkey : key ∈ tagKeys) {args : Arguments} (hgiven : (args.first ["field"]).isNull = false)
    (hnames : (args.first ["field"]).names? = none) :
    n.call key args = .refused n (.notNames key) := by
  have htable : ∀ key ∈ tagKeys,
      Entries.get? Kind.highlight.methods key = some (.highlight (.tags key)) := by decide
  simp only [Node.call, hkind, htable key hkey, Operation.run, HighlightMethod.run, hgiven,
    Bool.false_eq_true, if_false, hnames]

/-! ## Nodes with names in order -/

namespace Node

/-- The lists of names of a node are in order, whatever its kind is. -/
structure HoldsNames (n : Node) : Prop where
  lists : ∀ m ∈ nameSetters, n.kind = m.kind → n.NamesHeld
  tags : n.kind = .highlight → n.TagsHeld

/-- A call keeps the names that a node holds. -/
theorem HoldsNames.call {n : Node} (h : n.HoldsNames) (method : String) (args : Arguments) :
    (n.call method args).state.HoldsNames where
  lists := by
    intro m hm hkind
    rw [n.call_kind] at hkind
    exact (h.lists m hm hkind).call hm hkind method args
  tags := by
    intro hkind
    rw [n.call_kind] at hkind
    exact (h.tags hkind).call method args

/-- A new node holds names where it holds any. -/
theorem build_holdsNames (k : Kind) (args : Arguments) : (k.build args).state.HoldsNames where
  lists := by
    intro m hm hkind
    rw [Kind.build_kind] at hkind
    rw [hkind]
    exact build_namesHeld hm args
  tags := by
    intro hkind
    rw [Kind.build_kind] at hkind
    rw [hkind]
    exact build_tagsHeld args

/-- A setter refuses what does not pass. -/
theorem call_names_refused {n : Node} {m : NameSetter} (hm : m ∈ nameSetters)
    (hkind : n.kind = m.kind) {args : Arguments} (hgiven : args.first.isNull = false)
    (hfails : m.slot.check.passes args.first = false) :
    n.call m.method args = .refused n m.slot.blame := by
  obtain ⟨op, hop, hslot, -⟩ := NameSetter.exists_operation hm
  rw [← hkind] at hop
  simp only [Node.call, hop]
  exact op.run_names_refused hslot hgiven hfails

end Node

end SearchBuilder
