import SearchBuilder.Proofs.Document.Frame
import SearchBuilder.Proofs.Document.Grammar

/-!
# The shape of nodes

`Node.Shaped safe n` is the invariant of the nodes of concrete kinds: the fragment is an object that
fits the slots of the kind, the body is an object that does, and an envelope has no other member.

What stands under the inner key is only known if no field has the name of an option of the body.
That is what `safe` stands for: with it the options under the inner key are an object and the terms
of a field are a list, so no step on the node meets a value that it cannot handle. Without it the
rest of the invariant holds all the same.

Whatever a step writes, it replaces the fragment (`Shaped.withRoot`) or the body
(`Shaped.withBody`).
-/

namespace SearchBuilder

/-! ## Places of kinds -/

namespace Kind

/-- The kinds whose fragment is an envelope and nothing else. -/
def isSealed : Kind → Bool
  | query _ | filter _ => true
  | k => k.isLabelled

/-- The keys under which the body of a kind may stand beside other members. -/
def slotKeys : Kind → List String
  | score .script => ["script_score"]
  | score .random => ["random_score"]
  | score .fieldValue => ["field_value_factor"]
  | score .decay => ["gauss", "exp", "linear"]
  | rescore => ["query"]
  | _ => []

/-- Whether nodes of a kind have a body. -/
def hasBody (k : Kind) : Bool := k.isSealed || !k.slotKeys.isEmpty

/-- The kinds that keep options under the inner key of the body. -/
def hasInner : Kind → Bool
  | query .term | query .wordStart | query .wildcard | query .text | query .range
  | query .spanTerm | filter .range | filter .geoBox | score .decay | facet .terms
  | facet .statistical | facet .histogram | suggester .term | suggester .phrase
  | suggester .completion => true
  | aggregation k => k != .filter
  | _ => false

/-- The kinds that keep a list of terms under the inner key of the body. -/
def holdsTerms : Kind → Bool
  | query .terms | filter .terms => true
  | _ => false

/-- The keys that a field must not have as its name: those of options that stand beside it. -/
def reservedFields : Kind → List String
  | query .terms => ["boost", "minimum_should_match", "disable_coord", "execution"]
  | filter .terms => ["execution", "_name", "_cache", "_cache_key"]
  | filter .range => ["_name", "_cache", "_cache_key"]
  | filter .geoBox => ["type", "normalize", "_name", "_cache", "_cache_key"]
  | score .decay => ["multi_value_mode"]
  | _ => []

/-- The keys of options in the body, for kinds that keep something under the inner key beside. -/
def bodyKeys : Kind → List String
  | aggregation _ => ["aggs"]
  | facet _ => ["facet_filter", "global", "mode", "cache_filter", "nested"]
  | suggester _ => ["text"]
  | k => k.reservedFields

/-- Whether nodes of a kind may stand under a slot. -/
def admitsSlot (k : Kind) (slot : String) : Bool :=
  match k with
  | query k => slot = k.discriminator
  | filter k => slot = k.discriminator
  | k => k.isSealed || k.slotKeys.isEmpty || k.slotKeys.contains slot

/-- Whether the value at a place is an object for nodes of a kind. -/
def offers (k : Kind) : Place → Bool
  | .root => k != .geoPoint
  | .body => k.hasBody
  | .inner => k.hasInner

/-- The forms of keys at a place. -/
def slotsAt (k : Kind) : Place → Slots
  | .root => k.rootSlots
  | .body => k.bodySlots
  | .inner => k.innerSlots

/-- Whether an option of a kind may have a key at a place, where it meets neither the slot nor the
inner key. -/
def frees (k : Kind) (place : Place) (key : String) : Bool :=
  match place with
  | .root => !k.isSealed && !k.slotKeys.contains key
  | .body => !(k.hasInner || k.holdsTerms) || k.bodyKeys.contains key
  | .inner => true

theorem hasBody_of_hasInner {k : Kind} (h : k.hasInner = true) : k.hasBody = true := by
  cases k with
  | query k => rfl
  | filter k => rfl
  | aggregation k => rfl
  | facet k => rfl
  | suggester k => rfl
  | score k => cases k <;> first | rfl | cases h
  | _ => cases h

theorem isSealed_of_holdsTerms {k : Kind} (h : k.holdsTerms = true) : k.isSealed = true := by
  cases k <;> first | rfl | cases h

theorem hasInner_of_holdsTerms {k : Kind} (h : k.holdsTerms = true) : ¬ k.hasInner = true := by
  cases k with
  | query k => cases k <;> first | exact Bool.false_ne_true | cases h
  | filter k => cases k <;> first | exact Bool.false_ne_true | cases h
  | _ => cases h

theorem rootSlots_of_isSealed {k : Kind} (h : k.isSealed = true) : k.rootSlots = [] := by
  cases k <;> first | rfl | cases h

/-- Where other members stand beside the body, its slot is one of the keys for it. -/
theorem mem_slotKeys {k : Kind} {slot : String} (hbody : k.hasBody = true)
    (hsealed : k.isSealed = false) (hslot : k.admitsSlot slot = true) : slot ∈ k.slotKeys := by
  simp only [hasBody, hsealed, Bool.false_or, Bool.not_eq_true'] at hbody
  cases k with
  | query k => cases hsealed
  | filter k => cases hsealed
  | _ =>
    simp only [admitsSlot, hsealed, hbody, Bool.false_or] at hslot
    exact List.contains_iff_mem.1 hslot

/-- The slot of a body is none of the keys whose values matter. -/
theorem rootSlots_form_slot {k : Kind} {slot : String} (hbody : k.hasBody = true)
    (hslot : k.admitsSlot slot = true) : k.rootSlots.form slot = .any := by
  cases hsealed : k.isSealed with
  | true =>
    rw [rootSlots_of_isSealed hsealed]
    rfl
  | false =>
    have hkeys : ∀ key ∈ k.slotKeys, k.rootSlots.form key = .any := by
      cases k with
      | score k => cases k <;> decide
      | query k | filter k | aggregation k | facet k | suggester k => cases hsealed
      | _ => decide
    exact hkeys slot (mem_slotKeys hbody hsealed hslot)

theorem ne_slot_of_frees {k : Kind} {slot key : String} (hbody : k.hasBody = true)
    (hslot : k.admitsSlot slot = true) (h : k.frees .root key = true) : key ≠ slot := by
  rintro rfl
  simp only [frees, Bool.and_eq_true, Bool.not_eq_true'] at h
  have hmem := mem_slotKeys hbody h.1 hslot
  rw [List.contains_iff_mem.2 hmem] at h
  cases h.2

end Kind

/-! ## The invariant -/

/-- What a body holds under the inner key. -/
structure Kind.Holds (k : Kind) (inner : String) (body : Entries Json) : Prop where
  options : k.hasInner = true →
    ∃ options, Entries.get? body inner = some (.obj options) ∧ Fits k.innerSlots options
  terms : k.holdsTerms = true → ∃ items, Entries.get? body inner = some (.arr items)

theorem Kind.Holds.of_none {k : Kind} (h : (k.hasInner || k.holdsTerms) = false) (inner : String)
    (body : Entries Json) : k.Holds inner body := by
  simp only [Bool.or_eq_false_iff] at h
  exact ⟨fun hhas => absurd (h.1.symm.trans hhas) Bool.false_ne_true,
    fun hhas => absurd (h.2.symm.trans hhas) Bool.false_ne_true⟩

/-- The shape of a node of a concrete kind. With `safe`, no field is named like an option. -/
structure Node.Shaped (safe : Prop) (n : Node) : Prop where
  concrete : n.kind.isConcrete = true
  root : n.kind ≠ .geoPoint → ∃ members, n.fragment = .obj members ∧ Fits n.kind.rootSlots members
  body : n.kind.hasBody = true → ∃ body, n.valueAt .body = .obj body ∧
    Fits n.kind.bodySlots body ∧ (safe → n.kind.Holds n.inner body)
  sealed : n.kind.isSealed = true → ∃ value, n.fragment = .obj [(n.slot, value)]
  slot : n.kind.admitsSlot n.slot = true
  /-- The inner key is none of the keys of the body whose values matter. -/
  inner : n.kind.bodySlots.form n.inner = .any
  free : safe → n.inner ∉ n.kind.bodyKeys

namespace Node.Shaped

variable {safe : Prop} {n : Node}

theorem ne_geoPoint_of_hasBody {k : Kind} (h : k.hasBody = true) : k ≠ .geoPoint := by
  rintro rfl
  cases h

/-- An envelope of a sealed kind around a body that fits. -/
theorem of_envelope {k : Kind} (hconcrete : k.isConcrete = true) (hsealed : k.isSealed = true)
    {slot inner : String} (hslot : k.admitsSlot slot = true) {body : Entries Json}
    (hfits : Fits k.bodySlots body) (hheld : safe → k.Holds inner body)
    (hinner : k.bodySlots.form inner = .any) (hfree : safe → inner ∉ k.bodyKeys) :
    ({ kind := k, fragment := .obj [(slot, .obj body)], slot, inner } : Node).Shaped safe where
  concrete := hconcrete
  root := by
    intro _
    refine ⟨_, rfl, ?_⟩
    rw [Kind.rootSlots_of_isSealed hsealed]
    exact .of_nil _
  body := by
    intro _
    refine ⟨body, ?_, hfits, hheld⟩
    simp [Node.valueAt, Json.member, Entries.get?]
  sealed := fun _ => ⟨_, rfl⟩
  slot := hslot
  inner := hinner
  free := hfree

theorem exists_members (h : n.Shaped safe) {place : Place} (hoffers : n.kind.offers place = true)
    (hsafe : place = .inner → safe) :
    ∃ members, n.valueAt place = .obj members ∧ Fits (n.kind.slotsAt place) members := by
  cases place with
  | root => exact h.root (by simpa [Kind.offers] using hoffers)
  | body =>
    obtain ⟨body, hbody, hfits, -⟩ := h.body hoffers
    exact ⟨body, hbody, hfits⟩
  | inner =>
    obtain ⟨body, hbody, -, hheld⟩ := h.body (Kind.hasBody_of_hasInner hoffers)
    obtain ⟨options, hoptions, hfits⟩ := (hheld (hsafe rfl)).options hoffers
    refine ⟨options, ?_, hfits⟩
    change (n.valueAt .body).member n.inner = .obj options
    rw [hbody]
    exact Json.member_of_get? hoptions

/-- A value at a place that is offered has members. -/
theorem members?_ne_none (h : n.Shaped safe) {place : Place}
    (hoffers : n.kind.offers place = true) (hsafe : safe) : (n.valueAt place).members? ≠ none := by
  obtain ⟨members, hvalue, -⟩ := h.exists_members hoffers fun _ => hsafe
  rw [hvalue]
  exact Option.some_ne_none members

/-- The body as a member of the fragment. -/
theorem get?_slot (h : n.Shaped safe) (hbody : n.kind.hasBody = true) :
    ∃ members body, n.fragment = .obj members ∧ Fits n.kind.rootSlots members ∧
      Entries.get? members n.slot = some (.obj body) ∧ n.valueAt .body = .obj body ∧
      Fits n.kind.bodySlots body ∧ (safe → n.kind.Holds n.inner body) := by
  obtain ⟨members, hfragment, hfits⟩ := h.root (ne_geoPoint_of_hasBody hbody)
  obtain ⟨body, hvalue, hbodyFits, hheld⟩ := h.body hbody
  refine ⟨members, body, hfragment, hfits, ?_, hvalue, hbodyFits, hheld⟩
  simp only [Node.valueAt, hfragment, Json.member] at hvalue
  cases hget : Entries.get? members n.slot with
  | none =>
    rw [hget] at hvalue
    cases hvalue
  | some value =>
    rw [hget] at hvalue
    exact congrArg some hvalue

theorem valueAt_replace (h : n.Shaped safe) {place : Place}
    (hoffers : n.kind.offers place = true) (value : Json) :
    (n.replace place value).valueAt place = value := by
  have hset {members : Entries Json} {key : String} {value : Json} :
      ((Json.obj members).setMember key value).member key = value := by
    exact Json.member_of_get? (Entries.get?_set_self members key value)
  cases place with
  | root => rfl
  | body =>
    obtain ⟨members, body, hfragment, -⟩ := h.get?_slot hoffers
    change (n.fragment.setMember n.slot value).member n.slot = value
    rw [hfragment, hset]
  | inner =>
    obtain ⟨members, body, hfragment, -, -, hvalue, -, -⟩ :=
      h.get?_slot (Kind.hasBody_of_hasInner hoffers)
    change ((n.fragment.setMember n.slot
      ((n.fragment.member n.slot).setMember n.inner value)).member n.slot).member n.inner = value
    rw [show n.fragment.member n.slot = .obj body from hvalue, hfragment, hset, hset]

/-- A fragment in which the body stands as it did is as good. -/
theorem withRoot (h : n.Shaped safe) (hsealed : n.kind.isSealed = false) {members : Entries Json}
    (hfits : Fits n.kind.rootSlots members)
    (hslot : n.kind.hasBody = true →
      Entries.get? members n.slot = some (n.valueAt .body)) :
    (n.replace .root (.obj members)).Shaped safe where
  concrete := h.concrete
  root := fun _ => ⟨members, rfl, hfits⟩
  body := by
    intro hbody
    obtain ⟨body, hvalue, hbodyFits, hheld⟩ := h.body hbody
    refine ⟨body, ?_, hbodyFits, hheld⟩
    change (Json.obj members).member n.slot = .obj body
    rw [Json.member, hslot hbody, hvalue]
    rfl
  sealed := fun hs => absurd (hsealed.symm.trans hs) Bool.false_ne_true
  slot := h.slot
  inner := h.inner
  free := h.free

/-- A body that fits may take the place of the old one, also with another inner key. -/
theorem withBody (h : n.Shaped safe) (hbody : n.kind.hasBody = true) {body : Entries Json}
    {inner : String} (hfits : Fits n.kind.bodySlots body)
    (hheld : safe → n.kind.Holds inner body) (hinner : n.kind.bodySlots.form inner = .any)
    (hfree : safe → inner ∉ n.kind.bodyKeys) :
    ({ n.replace .body (.obj body) with inner } : Node).Shaped safe := by
  obtain ⟨members, old, hfragment, hroot, -, -⟩ := h.get?_slot hbody
  have hreplaced : n.fragment.setMember n.slot (.obj body) =
      .obj (Entries.set members n.slot (.obj body)) := by
    rw [hfragment]
    rfl
  refine ⟨h.concrete, fun _ => ⟨_, hreplaced, ?_⟩, fun _ => ⟨body, ?_, hfits, hheld⟩, ?_, h.slot,
    hinner, hfree⟩
  · refine hroot.set ?_
    rw [Kind.rootSlots_form_slot hbody h.slot]
    exact .any _
  · change (n.fragment.setMember n.slot (.obj body)).member n.slot = .obj body
    rw [hreplaced]
    exact Json.member_of_get? (Entries.get?_set_self _ _ _)
  · intro hsealed
    obtain ⟨value, hvalue⟩ := h.sealed hsealed
    refine ⟨.obj body, ?_⟩
    change n.fragment.setMember n.slot (.obj body) = .obj [(n.slot, .obj body)]
    rw [hvalue]
    simp [Json.setMember, Json.setMember?, Entries.set]

/-- The value at a place is changed under one key, to something that the key admits. Without `safe`
no more is asked of the options under the inner key. -/
theorem edit (h : n.Shaped safe) {place : Place} {key : String} {m m' : Entries Json}
    (hoffers : n.kind.offers place = true) (hfrees : n.kind.frees place key = true)
    (hm : n.valueAt place = .obj m)
    (hother : ∀ other, key ≠ other → Entries.get? m' other = Entries.get? m other)
    (hkey : (place = .inner → safe) →
      Admits ((n.kind.slotsAt place).form key) (Entries.get? m' key)) :
    (n.replace place (.obj m')).Shaped safe := by
  cases place with
  | root =>
    have hadmits := hkey fun hplace => Place.noConfusion hplace
    have hunsealed : n.kind.isSealed = false := by
      simp only [Kind.frees, Bool.and_eq_true, Bool.not_eq_true'] at hfrees
      exact hfrees.1
    obtain ⟨members, hfragment, hfits⟩ := h.root (by simpa [Kind.offers] using hoffers)
    obtain rfl : members = m := Json.obj.inj (hfragment.symm.trans hm)
    refine h.withRoot hunsealed (hfits.edit hother hadmits) fun hbody => ?_
    obtain ⟨root, body, hroot, -, hslot, hvalue, -, -⟩ := h.get?_slot hbody
    obtain rfl : root = members := Json.obj.inj (hroot.symm.trans hfragment)
    rw [hother n.slot (Kind.ne_slot_of_frees hbody h.slot hfrees), hslot, hvalue]
  | body =>
    have hadmits := hkey fun hplace => Place.noConfusion hplace
    obtain ⟨body, hvalue, hfits, hheld⟩ := h.body hoffers
    obtain rfl : body = m := Json.obj.inj (hvalue.symm.trans hm)
    refine h.withBody hoffers (hfits.edit hother hadmits) (fun hsafe => ?_) h.inner h.free
    -- The key is one of the options, and with `safe` the inner key is none of them.
    have hkept : n.kind.hasInner = true ∨ n.kind.holdsTerms = true →
        Entries.get? m' n.inner = Entries.get? body n.inner := by
      intro hheld
      refine hother n.inner ?_
      rintro rfl
      simp only [Kind.frees, Bool.or_eq_true, Bool.not_eq_true'] at hfrees
      rcases hfrees with hnone | hmem
      · rcases hheld with hheld | hheld <;> simp [hheld] at hnone
      · exact h.free hsafe (List.contains_iff_mem.1 hmem)
    refine ⟨fun hhas => ?_, fun hhas => ?_⟩
    · rw [hkept (.inl hhas)]
      exact (hheld hsafe).options hhas
    · rw [hkept (.inr hhas)]
      exact (hheld hsafe).terms hhas
  | inner =>
    have hbody := Kind.hasBody_of_hasInner hoffers
    obtain ⟨body, hvalue, hfits, hheld⟩ := h.body hbody
    -- New options are a new body in which the inner key is set.
    have hreplaced : n.replace .inner (.obj m') =
        n.replace .body (.obj (Entries.set body n.inner (.obj m'))) := by
      simp only [Node.replace]
      rw [show n.fragment.member n.slot = .obj body from hvalue]
      rfl
    rw [hreplaced]
    refine h.withBody hbody (hfits.set ?_) (fun hsafe => ⟨fun hhas => ?_, fun hhas => ?_⟩) h.inner
      h.free
    · rw [h.inner]
      exact .any _
    · obtain ⟨options, hoptions, hinside⟩ := (hheld hsafe).options hhas
      refine ⟨m', Entries.get?_set_self _ _ _, hinside.edit ?_ (hkey fun _ => hsafe)⟩
      intro other hne
      rw [hother other hne]
      change (n.valueAt .body).member n.inner = .obj m at hm
      rw [hvalue, Json.member, hoptions] at hm
      rw [Json.obj.inj hm]
    · exact absurd hoffers (Kind.hasInner_of_holdsTerms hhas)

theorem set (h : n.Shaped safe) {place : Place} {key : String} {members : Entries Json}
    {value : Json} (hoffers : n.kind.offers place = true) (hfrees : n.kind.frees place key = true)
    (hmembers : n.valueAt place = .obj members)
    (hvalue : (place = .inner → safe) →
      Admits ((n.kind.slotsAt place).form key) (some value)) :
    (n.replace place (.obj (Entries.set members key value))).Shaped safe := by
  refine h.edit hoffers hfrees hmembers
    (fun other hne => Entries.get?_set_of_ne members hne value) fun hsafe => ?_
  rw [Entries.get?_set_self]
  exact hvalue hsafe

end Node.Shaped

end SearchBuilder
