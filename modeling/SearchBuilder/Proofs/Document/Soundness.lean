import SearchBuilder.Proofs.Document.Methods

/-!
# Operations on nodes of good shape

The methods of highlights, sort clauses, suggesters and request bodies, and with them all
operations: an operation that suits the kind of a node leaves it in good shape, and with `safe` it
can only fail by blaming an argument (`Operation.run_sound`).
-/

namespace SearchBuilder

open Outcome

variable {safe : Prop} {n : Node}

/-! ## Highlights -/

/-- Whether a method of a highlight is one that nodes of a kind may have. -/
def HighlightMethod.suits (m : HighlightMethod) (k : Kind) : Bool :=
  match m with
  | fields => k = .highlight
  | option key | choice key _ | tags key | settings key =>
    k = .highlight && decide (key ≠ "fields")

namespace Node

/-- A highlight with a list of fields, each with its options. -/
structure ListsFields (n : Node) (members fields : Entries Json) : Prop where
  fragment : n.fragment = .obj members
  listed : Entries.get? members "fields" = some (.obj fields)
  objects : ∀ key value, Entries.get? fields key = some value → ∃ inside, value = .obj inside

/-- The fields of a highlight are an object of objects, if there are any. -/
theorem exists_fields (hn : n.Shaped safe) (hkind : n.kind = .highlight) {members : Entries Json}
    (hfragment : n.fragment = .obj members) {value : Json}
    (hvalue : Entries.get? members "fields" = some value) :
    ∃ fields, n.ListsFields members fields := by
  obtain ⟨members', hfragment', hfits⟩ := hn.root (by rw [hkind]; exact Kind.noConfusion)
  obtain rfl : members' = members := Json.obj.inj (hfragment'.symm.trans hfragment)
  have hadmits := hfits.admits "fields"
  rw [hkind, hvalue] at hadmits
  cases hadmits with
  | objects hobjects => exact ⟨_, hfragment, hvalue, hobjects⟩

/-- A highlight whose fields are begun lists them. -/
theorem openFields_shaped (hn : n.Shaped safe) (hkind : n.kind = .highlight) {opened : Node}
    (hopen : n.openSlot .root "fields" .empty = .ok opened) :
    opened.Shaped safe ∧ opened.kind = .highlight ∧
      ∃ members fields, opened.ListsFields members fields := by
  have hempty : Admits ((n.kind.slotsAt .root).form "fields") (some .empty) := by
    rw [hkind]
    exact .objects fun key value h => by cases h
  obtain ⟨hopened, members, hfragment, value, hvalue⟩ :=
    openSlot_shaped hn (by rw [hkind]; rfl) (by rw [hkind]; rfl) hempty hopen
  have hopenedKind : opened.kind = .highlight := (openSlot_kind hopen).trans hkind
  exact ⟨hopened, hopenedKind, members, exists_fields hopened hopenedKind hfragment hvalue⟩

/-- The fields of a highlight may be replaced by others with options. -/
theorem ListsFields.replace {members fields fields' : Entries Json}
    (h : n.ListsFields members fields) (hn : n.Shaped safe) (hkind : n.kind = .highlight)
    (hobjects : ∀ key value, Entries.get? fields' key = some value →
      ∃ inside, value = .obj inside) :
    (n.replace .root (.obj (Entries.set members "fields" (.obj fields')))).Shaped safe ∧
      (n.replace .root (.obj (Entries.set members "fields" (.obj fields')))).ListsFields
        (Entries.set members "fields" (.obj fields')) fields' := by
  refine ⟨?_, rfl, Entries.get?_set_self _ _ _, hobjects⟩
  have hfrees : n.kind.frees .root "fields" = true := by
    rw [hkind]
    rfl
  refine hn.set (by rw [hkind]; rfl) hfrees h.fragment fun _ => ?_
  rw [hkind]
  exact .objects hobjects

theorem set_objects {fields options : Entries Json} {name : String}
    (h : ∀ key value, Entries.get? fields key = some value → ∃ inside, value = .obj inside) :
    ∀ key value, Entries.get? (Entries.set fields name (.obj options)) key = some value →
      ∃ inside, value = .obj inside := by
  intro key value hvalue
  rw [Entries.get?_set] at hvalue
  split at hvalue
  · cases hvalue
    exact ⟨_, rfl⟩
  · exact h key value hvalue

/-- A field is added with no options unless it is there. -/
theorem addField_shaped (hn : n.Shaped safe) (hkind : n.kind = .highlight) (field : String) :
    ∃ added, n.addField field = .ok added ∧ added.Shaped safe ∧ added.kind = .highlight ∧
      ∃ members fields options, added.ListsFields members fields ∧
        Entries.get? fields field = some (.obj options) := by
  unfold addField
  cases hopen : n.openSlot .root "fields" .empty with
  | error fault =>
    obtain ⟨members, hfragment, -⟩ := hn.root (by rw [hkind]; exact Kind.noConfusion)
    simp only [openSlot, valueAt, hfragment, Json.members?] at hopen
    cases hopen
  | ok opened =>
    obtain ⟨hopened, hopenedKind, members, fields, hlists⟩ := openFields_shaped hn hkind hopen
    dsimp only
    rw [hlists.fragment, Json.member_of_get? hlists.listed]
    have hdefault : ∃ options,
        Entries.get? (Entries.setDefault fields field .empty) field = some (.obj options) ∧
          ∀ key value, Entries.get? (Entries.setDefault fields field .empty) key = some value →
            ∃ inside, value = .obj inside := by
      cases hget : Entries.get? fields field with
      | some value =>
        obtain ⟨options, rfl⟩ := hlists.objects field value hget
        rw [Entries.setDefault_of_get? hget]
        exact ⟨options, hget, hlists.objects⟩
      | none =>
        rw [Entries.setDefault_of_absent hget]
        exact ⟨[], Entries.get?_set_self _ _ _, set_objects hlists.objects⟩
    obtain ⟨options, hoptions, hobjects⟩ := hdefault
    obtain ⟨hshaped, hadded⟩ := hlists.replace hopened hopenedKind hobjects
    exact ⟨_, rfl, hshaped, hopenedKind, _, _, options, hadded, hoptions⟩

/-- Naming fields keeps a highlight in good shape. -/
theorem foldlM_addField_shaped (hn : n.Shaped safe) (hkind : n.kind = .highlight)
    (fields : List String) :
    ∃ added, fields.foldlM addField n = .ok added ∧ added.Shaped safe := by
  induction fields generalizing n with
  | nil => exact ⟨n, rfl, hn⟩
  | cons field rest ih =>
    obtain ⟨first, hadd, hfirst, hfirstKind, -⟩ := addField_shaped hn hkind field
    obtain ⟨added, hrest, hadded⟩ := ih hfirst hfirstKind
    refine ⟨added, ?_, hadded⟩
    rw [List.foldlM_cons, hadd]
    exact hrest

theorem writeHighlight_sound (hn : n.Shaped safe) (hkind : n.kind = .highlight) {key : String}
    (hkey : key ≠ "fields") (field : Option String) (value : Json) :
    (n.writeHighlight key field value).Sound safe := by
  unfold writeHighlight
  cases field with
  | none =>
    refine writeAny_sound hn (by rw [hkind]; rfl) (by rw [hkind]; rfl) ?_ value
    rw [hkind]
    simp [Kind.slotsAt, Kind.rootSlots, Slots.form, Entries.get?, Ne.symm hkey]
  | some name =>
    obtain ⟨added, hadd, hadded, haddedKind, members, fields, options, hlists, hoptions⟩ :=
      addField_shaped hn hkind name
    dsimp only
    rw [hadd]
    dsimp only
    rw [hlists.fragment, Json.member_of_get? hlists.listed, Json.member_of_get? hoptions]
    exact sound_shifted (hlists.replace hadded haddedKind (set_objects hlists.objects)).1 _

/-- What lies on the way to an option of a highlight is objects. -/
theorem readHighlight_sound (hn : n.Shaped safe) (hkind : n.kind = .highlight) (key : String)
    (field : Option String) : (n.readThrough (highlightPath key field)).Sound safe := by
  refine readThrough_sound hn fun _ => ?_
  obtain ⟨members, hfragment, -⟩ := hn.root (by rw [hkind]; exact Kind.noConfusion)
  rw [hfragment]
  cases field with
  | none => exact Json.opens_one members key
  | some name =>
    refine Json.opens_cons fun value hvalue => ?_
    obtain ⟨fields, hlists⟩ := exists_fields hn hkind hfragment hvalue
    rw [hlists.listed] at hvalue
    cases hvalue
    refine Json.opens_cons fun inside hinside => ?_
    obtain ⟨options, rfl⟩ := hlists.objects name inside hinside
    exact Json.opens_one options key

end Node

theorem HighlightMethod.run_sound {m : HighlightMethod} (hn : n.Shaped safe)
    (h : m.suits n.kind = true) (args : Arguments) : (m.run n args).Sound safe := by
  cases m with
  | fields =>
    have hkind := of_decide_eq_true h
    simp only [run]
    split
    · exact Node.readOption_sound hn (by rw [hkind]; rfl) _
    · split
      · next fault hopen =>
        obtain ⟨members, hfragment, -⟩ := hn.root (by rw [hkind]; exact Kind.noConfusion)
        simp only [Node.openSlot, Node.valueAt, hfragment, Json.members?] at hopen
        cases hopen
      · next opened hopen =>
        obtain ⟨hopened, hopenedKind, -⟩ := Node.openFields_shaped hn hkind hopen
        split
        · exact sound_refused hopened _
        · next names hnames =>
          obtain ⟨added, hadd, hadded⟩ := Node.foldlM_addField_shaped hopened hopenedKind names
          rw [hadd]
          exact sound_chained hadded
  | option key =>
    simp only [suits, Bool.and_eq_true, decide_eq_true_eq] at h
    simp only [run]
    split
    · exact Node.readHighlight_sound hn h.1 _ _
    · exact Node.writeHighlight_sound hn h.1 h.2 _ _
  | choice key words =>
    simp only [suits, Bool.and_eq_true, decide_eq_true_eq] at h
    simp only [run]
    split
    · exact Node.readHighlight_sound hn h.1 _ _
    · split
      · exact sound_refused hn _
      · split
        · exact Node.writeHighlight_sound hn h.1 h.2 _ _
        · exact sound_noticed hn _
  | tags key | settings key =>
    simp only [suits, Bool.and_eq_true, decide_eq_true_eq] at h
    simp only [run]
    split
    · exact Node.readHighlight_sound hn h.1 _ _
    · split
      · exact Node.writeHighlight_sound hn h.1 h.2 _ _
      · exact sound_refused hn _

/-! ## Sort clauses -/

/-- Whether a method of a sort clause is one that nodes of a kind may have. -/
def SortMethod.suits (_ : SortMethod) (k : Kind) : Bool := k = .sort

namespace Node

theorem clause_shaped (slot inner : String) (body : Entries Json) :
    ({ kind := .sort, fragment := .obj [(slot, .obj body)], slot, inner } : Node).Shaped safe :=
  .of_envelope rfl rfl rfl (.of_nil body) (fun _ => .of_none rfl inner body) rfl
    fun _ => List.not_mem_nil

/-- A sort clause of good shape is one member over an object. -/
theorem exists_clause (hn : n.Shaped safe) (hkind : n.kind = .sort) :
    ∃ body, n = ⟨.sort, .obj [(n.slot, .obj body)], n.slot, n.inner⟩ := by
  obtain ⟨body, hfragment, -⟩ := hn.exists_envelope (by rw [hkind]; rfl)
  refine ⟨body, ?_⟩
  rw [← hfragment, ← hkind]

/-- Renaming a sort clause is sound. -/
theorem renameClause_sound (hn : n.Shaped safe) (hkind : n.kind = .sort) (field : String) :
    (n.renameClause field).Sound safe := by
  unfold renameClause
  split
  · refine renameInner_sound hn (by rw [hkind]; rfl) (by rw [hkind]; rfl) fun _ => ?_
    rw [hkind]
    exact List.not_mem_nil
  · split
    · exact sound_chained (hn.withInner (by rw [hkind]; rfl) (by rw [hkind]; rfl)
        (by rw [hkind]; rfl) field)
    · obtain ⟨body, hbody⟩ := exists_clause hn hkind
      have hmoved : Entries.rekey [(n.slot, Json.obj body)] n.slot field .empty =
          [(field, .obj body)] := Entries.rekey_one ..
      rw [show n.fragment = .obj [(n.slot, .obj body)] from congrArg Node.fragment hbody]
      simp only [Json.members?, hmoved, hkind]
      exact sound_shifted (clause_shaped field field body) _

end Node

theorem SortMethod.run_sound {m : SortMethod} (hn : n.Shaped safe) (h : m.suits n.kind = true)
    (args : Arguments) : (m.run n args).Sound safe := by
  have hkind : n.kind = .sort := of_decide_eq_true h
  obtain ⟨body, hbody⟩ := Node.exists_clause hn hkind
  have hfragment := congrArg Node.fragment hbody
  have hwrite (key : String) (value : Json) : (n.writeOption .body key value).Sound safe :=
    Node.freely_sound hn (Node.freely_of_hasFreeBody (by rw [hkind]; rfl) key) value
  have hread (first second : String) : (n.readThrough [first, second]).Sound safe := by
    refine Node.readThrough_sound hn fun _ => ?_
    rw [hfragment]
    refine Json.opens_cons fun value hvalue => ?_
    have hmem := Entries.mem_of_get? hvalue
    cases List.mem_singleton.1 hmem
    exact Json.opens_one body second
  have hswitch (key : String) (body : Entries Json) : (n.switchClause key body).Sound safe := by
    unfold Node.switchClause
    rw [hkind]
    exact sound_shifted (Node.clause_shaped key n.inner body) _
  cases m with
  | field =>
    simp only [run]
    split
    · exact sound_value hn _
    · exact Node.renameClause_sound hn hkind _
  | direction word => exact hwrite _ _
  | geoDistance =>
    simp only [run]
    split
    · exact hread _ _
    · split
      · exact hswitch _ _
      · exact sound_refused hn _
  | script =>
    simp only [run]
    split
    · exact hread _ _
    · split
      · exact hwrite _ _
      · exact hswitch _ _

/-! ## Suggesters -/

/-- Whether a method of a suggester is one that nodes of a kind may have. -/
def SuggestionMethod.suits (m : SuggestionMethod) (k : Kind) : Bool :=
  match m with
  | linearSmoothing | laplaceSmoothing | backoffSmoothing => k.freely .inner "smoothing"
  | changeTags => k.freely .inner "highlight"
  | fuzzy | fuzzyOption _ => k.offers .inner && decide ((k.slotsAt .inner).form "fuzzy" = .object)

namespace Node

/-- With `safe` the way to the fuzzy settings is open. -/
theorem readFuzzy_sound (hn : n.Shaped safe) (hoffers : n.kind.offers .inner = true)
    (hform : (n.kind.slotsAt .inner).form "fuzzy" = .object) (key : String) :
    (n.readThrough (n.path .inner ++ ["fuzzy", key])).Sound safe := by
  refine readThrough_sound hn fun hsafe => ?_
  have hbody := Kind.hasBody_of_hasInner hoffers
  obtain ⟨members, body, hfragment, -, hslot, -, -, hheld⟩ := hn.get?_slot hbody
  obtain ⟨options, hoptions, hfits⟩ := (hheld hsafe).options hoffers
  rw [hfragment]
  refine Json.opens_cons fun value hget => ?_
  cases hslot.symm.trans hget
  refine Json.opens_cons fun value hget => ?_
  cases hoptions.symm.trans hget
  refine Json.opens_cons fun value hget => ?_
  have hadmits := hfits.admits "fuzzy"
  rw [hget, show n.kind.innerSlots.form "fuzzy" = .object from hform] at hadmits
  cases hadmits with
  | object settings => exact Json.opens_one settings key

end Node

theorem SuggestionMethod.run_sound {m : SuggestionMethod} (hn : n.Shaped safe)
    (h : m.suits n.kind = true) (args : Arguments) : (m.run n args).Sound safe := by
  cases m with
  | linearSmoothing | laplaceSmoothing | backoffSmoothing => exact Node.freely_sound hn h _
  | changeTags =>
    simp only [run]
    split
    · exact Node.read_freely_sound hn h
    · exact Node.freely_sound hn h _
  | fuzzy =>
    simp only [suits, Bool.and_eq_true, decide_eq_true_eq] at h
    obtain ⟨hoffers, hform⟩ := h
    simp only [run]
    split
    · exact Node.readOption_sound hn hoffers _
    · split
      · next hmembers =>
        exact sound_failed hn fun hsafe => hn.members?_ne_none hoffers hsafe hmembers
      · next members hmembers =>
        have hvalue := Json.eq_obj_of_members? hmembers
        have hfrees : n.kind.frees .inner "fuzzy" = true := rfl
        split
        · refine sound_chained (hn.edit hoffers hfrees hvalue (fun other hne => ?_) fun hsafe => ?_)
          · unfold Entries.setDefault
            split
            · rfl
            · exact Entries.get?_set_of_ne members hne _
          · cases hget : Entries.get? members "fuzzy" with
            | some value =>
              rw [Entries.setDefault_of_get? hget, hget]
              exact Node.admits_member hn hoffers hsafe hvalue hget
            | none =>
              rw [Entries.setDefault_of_absent hget, Entries.get?_set_self, hform]
              exact .object []
        · refine sound_shifted (hn.edit hoffers hfrees hvalue
            (fun other hne => Entries.get?_erase_of_ne members hne) fun _ => ?_) _
          rw [Entries.get?_erase_self, hform]
          exact .absent rfl
  | fuzzyOption key =>
    simp only [suits, Bool.and_eq_true, decide_eq_true_eq] at h
    obtain ⟨hoffers, hform⟩ := h
    simp only [run]
    split
    · next hmembers =>
      exact sound_failed hn fun hsafe => hn.members?_ne_none hoffers hsafe hmembers
    · split
      · exact Node.readFuzzy_sound hn hoffers hform key
      · refine Node.mergeSection_sound hn hoffers rfl fun m hkind _ => ⟨_, rfl, ?_⟩
        rw [hform]
        trivial

/-! ## Request bodies -/

/-- Whether a method of a request body is one that nodes of a kind may have. -/
def BodyMethod.suits (_ : BodyMethod) (k : Kind) : Bool := k = .request

theorem BodyMethod.run_sound {m : BodyMethod} (hn : n.Shaped safe) (h : m.suits n.kind = true)
    {args : Arguments} (hargs : args.Show Child.Genuine) : (m.run n args).Sound safe := by
  have hkind : n.kind = .request := of_decide_eq_true h
  have hoffers : n.kind.offers .root = true := by
    rw [hkind]
    rfl
  have hfrees (key : String) : n.kind.frees .root key = true := by
    rw [hkind]
    rfl
  have hread (key : String) : (n.readOption .root key).Sound safe :=
    Node.readOption_sound hn hoffers key
  have happend (item : Node → Json) : (n.appendItem .root "sort" item).Sound safe := by
    refine Node.appendItem_sound hn hoffers (hfrees _) (by rw [hkind]; rfl) fun _ _ _ => ?_
    rw [hkind]
    trivial
  have hmerge {key : String} (hform : (n.kind.slotsAt .root).form key = .object)
      (additions : Node → Entries Json) :
      (n.mergeSection .root key fun m => .obj (additions m)).Sound safe := by
    refine Node.mergeSection_sound hn hoffers (hfrees _) fun _ _ _ => ⟨_, rfl, ?_⟩
    rw [hform]
    trivial
  have hsource (value : Json) : (n.writeOption .root "_source" value).Sound safe :=
    Node.writeAny_sound hn hoffers (hfrees _) (by rw [hkind]; rfl) value
  cases m with
  | sort =>
    simp only [run]
    split
    · exact hread _
    · split
      · unfold sortBy
        split
        · dsimp only
          split
          · exact happend _
          · exact sound_noticed hn _
        · exact sound_refused hn _
      · split
        · split
          · refine Node.writeOption_sound hn hoffers (hfrees _) ?_
            rw [hkind]
            exact .list _
          · exact sound_refused hn _
        · split
          · exact happend _
          · exact sound_refused hn _
  | source =>
    simp only [run]
    split
    · exact hread _
    · split
      · exact hsource _
      · exact sound_refused hn _
      · split
        · exact hsource _
        · exact sound_refused hn _
  | suggest =>
    simp only [run]
    split
    · exact hmerge (by rw [hkind]; rfl) fun _ => _
    · exact Accessor.run_sound hn (by rw [hkind]; decide) (hargs.first [])
  | indexBoost =>
    simp only [run]
    split
    · exact hread _
    · split
      · refine Node.readThrough_sound hn fun _ => ?_
        obtain ⟨members, hfragment, hfits⟩ := hn.root (by rw [hkind]; exact Kind.noConfusion)
        rw [hfragment]
        refine Json.opens_cons fun value hvalue => ?_
        have hadmits := hfits.admits "indices_boost"
        rw [hvalue, hkind] at hadmits
        cases hadmits with
        | object boosts => exact Json.opens_one boosts _
      · exact hmerge (by rw [hkind]; rfl) fun _ => _

/-! ## All operations -/

theorem Inspection.run_sound (i : Inspection) (hn : n.Shaped safe) : (i.run n).Sound safe := by
  cases i with
  | fragment => exact Node.readPart_sound hn []
  | tag => exact sound_value hn _
  | text | shown => exact sound_of_ok hn rfl

namespace Operation

/-- Whether an operation is one that nodes of a kind may have. -/
def suits (op : Operation) (k : Kind) : Bool :=
  match op with
  | accessor a => a.suits k
  | field m => m.suits k
  | geo m => m.suits k
  | decay m => m.suits k
  | bucket m => m.suits k
  | highlight m => m.suits k
  | sort m => m.suits k
  | suggestion m => m.suits k
  | body m => m.suits k
  | inspect _ => true

/-- What an operation asks of its arguments besides: the new name of a field is none of those that
options have, and the direction of an order is a text or missing. -/
def Allows (op : Operation) (k : Kind) (args : Arguments) : Prop :=
  match op with
  | field .rename => args.first.name ∉ k.bodyKeys
  | bucket .order => (args.get 1 "direction").IsWord
  | _ => True

/-- An operation that suits its node is sound, if what it asks for is given. -/
theorem run_sound {op : Operation} (hn : n.Shaped safe) (h : op.suits n.kind = true)
    {args : Arguments} (hargs : args.Show Child.Genuine)
    (hallows : safe → op.Allows n.kind args) : (op.run n args).Sound safe := by
  cases op with
  | accessor a => exact a.run_sound hn h (hargs.first [])
  | field m =>
    refine m.run_sound hn h hargs fun hsafe hm => ?_
    subst hm
    exact hallows hsafe
  | geo m => exact m.run_sound hn h args
  | decay m => exact m.run_sound hn h
  | bucket m =>
    refine m.run_sound hn h fun hsafe hm => ?_
    subst hm
    exact hallows hsafe
  | highlight m => exact m.run_sound hn h args
  | sort m => exact m.run_sound hn h args
  | suggestion m => exact m.run_sound hn h args
  | body m => exact m.run_sound hn h hargs
  | inspect i => exact i.run_sound hn

end Operation

end SearchBuilder
