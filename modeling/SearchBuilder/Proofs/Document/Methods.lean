import SearchBuilder.Proofs.Document.Accessors

/-!
# Methods on nodes of good shape

Every method that suits the kind of a node is sound on it (`Operation.run_sound`). Two methods need
more with `safe`: a field must not be given the name of an option beside it, and the direction of a
bucket order must be a text or count as missing (`Operation.Allows`).
-/

namespace SearchBuilder

open Outcome

variable {safe : Prop} {n : Node}

/-! ## Fields -/

namespace Node

/-- The field of a node may be renamed to anything but the name of an option beside it. -/
theorem renameInner_sound (hn : n.Shaped safe) (hbody : n.kind.hasBody = true)
    (hslots : n.kind.bodySlots = []) {name : String} (hname : safe → name ∉ n.kind.bodyKeys) :
    (n.renameInner name).Sound safe := by
  obtain ⟨body, hvalue, -, hheld⟩ := hn.body hbody
  unfold renameInner
  rw [hvalue]
  dsimp only [Json.members?]
  refine sound_shifted (hn.withBody hbody (by rw [hslots]; exact .of_nil _)
    (fun hsafe => ⟨fun hhas => ?_, fun hhas => ?_⟩) (by rw [hslots]; rfl) hname) _
  · obtain ⟨options, hoptions, hfits⟩ := (hheld hsafe).options hhas
    exact ⟨options, Entries.get?_rekey_self hoptions name .empty, hfits⟩
  · obtain ⟨items, hitems⟩ := (hheld hsafe).terms hhas
    exact ⟨items, Entries.get?_rekey_self hitems name .empty⟩

/-- The inner key does not matter where nothing is kept under it. -/
theorem Shaped.withInner (hn : n.Shaped safe)
    (hnone : (n.kind.hasInner || n.kind.holdsTerms) = false) (hslots : n.kind.bodySlots = [])
    (hkeys : n.kind.bodyKeys = []) (inner : String) :
    ({ n with inner } : Node).Shaped safe where
  concrete := hn.concrete
  root := hn.root
  body := by
    intro hbody
    obtain ⟨body, hvalue, hfits, -⟩ := hn.body hbody
    exact ⟨body, hvalue, hfits, fun _ => .of_none hnone inner body⟩
  sealed := hn.sealed
  slot := hn.slot
  inner := by
    change n.kind.bodySlots.form inner = .any
    rw [hslots]
    rfl
  free := by
    intro _
    change inner ∉ n.kind.bodyKeys
    rw [hkeys]
    exact List.not_mem_nil

/-- A body option whose key is free and whose value does not matter. -/
theorem writeAny_sound (hn : n.Shaped safe) {place : Place} {key : String}
    (hoffers : n.kind.offers place = true) (hfrees : n.kind.frees place key = true)
    (hform : (n.kind.slotsAt place).form key = .any) (value : Json) :
    (n.writeOption place key value).Sound safe :=
  writeOption_sound hn hoffers hfrees (by rw [hform]; exact .any _)

end Node

/-- Whether any value may be stored under a key of a place. -/
def Kind.freely (k : Kind) (place : Place) (key : String) : Bool :=
  k.offers place && k.frees place key && decide ((k.slotsAt place).form key = .any)

/-- Whether the body of a kind is free of everything that matters. -/
def Kind.hasFreeBody (k : Kind) : Bool :=
  k.hasBody && decide (k.bodySlots = []) && decide (k.bodyKeys = []) &&
    !(k.hasInner || k.holdsTerms)

namespace Node

theorem freely_sound (hn : n.Shaped safe) {place : Place} {key : String}
    (h : n.kind.freely place key = true) (value : Json) :
    (n.writeOption place key value).Sound safe := by
  simp only [Kind.freely, Bool.and_eq_true, decide_eq_true_eq] at h
  exact writeAny_sound hn h.1.1 h.1.2 h.2 value

theorem offers_of_freely {k : Kind} {place : Place} {key : String}
    (h : k.freely place key = true) : k.offers place = true := by
  simp only [Kind.freely, Bool.and_eq_true] at h
  exact h.1.1

theorem read_freely_sound (hn : n.Shaped safe) {place : Place} {key : String}
    (h : n.kind.freely place key = true) : (n.readOption place key).Sound safe :=
  readOption_sound hn (offers_of_freely h) key

theorem freely_of_hasFreeBody {k : Kind} (h : k.hasFreeBody = true) (key : String) :
    k.freely .body key = true := by
  simp only [Kind.hasFreeBody, Bool.and_eq_true, decide_eq_true_eq] at h
  obtain ⟨⟨⟨hbody, hslots⟩, -⟩, hnone⟩ := h
  simp [Kind.freely, Kind.offers, Kind.frees, Kind.slotsAt, hbody, hslots, hnone, Slots.form,
    Entries.get?]

end Node

/-- Whether a method about a field is one that nodes of a kind may have. -/
def FieldMethod.suits (m : FieldMethod) (k : Kind) : Bool :=
  match m with
  | rename => k.hasBody && decide (k.bodySlots = [])
  | renameIfSet | value => k.hasFreeBody
  | terms => k.holdsTerms && decide (k.bodySlots = [])
  | fieldList => k.freely .body "fields"

theorem FieldMethod.run_sound {m : FieldMethod} (hn : n.Shaped safe) (h : m.suits n.kind = true)
    {args : Arguments} (hargs : args.Show Child.Genuine)
    (hname : safe → m = .rename → args.first.name ∉ n.kind.bodyKeys) :
    (m.run n args).Sound safe := by
  cases m with
  | rename =>
    simp only [suits, Bool.and_eq_true, decide_eq_true_eq] at h
    simp only [run]
    split
    · exact sound_value hn _
    · exact Node.renameInner_sound hn h.1 h.2 fun hsafe => hname hsafe rfl
  | renameIfSet =>
    have hfree := h
    simp only [suits, Kind.hasFreeBody, Bool.and_eq_true, decide_eq_true_eq,
      Bool.not_eq_true'] at h
    obtain ⟨⟨⟨hbody, hslots⟩, hkeys⟩, hnone⟩ := h
    obtain ⟨body, hvalue, -, -⟩ := hn.body hbody
    simp only [run]
    split
    · exact sound_value hn _
    · rw [hvalue]
      dsimp only [Json.members?]
      split
      · refine Node.renameInner_sound hn hbody hslots fun _ => ?_
        rw [hkeys]
        exact List.not_mem_nil
      · exact sound_chained (hn.withInner hnone hslots hkeys _)
  | value =>
    have hfreely := Node.freely_of_hasFreeBody h n.inner
    refine Accessor.run_sound hn ?_ (hargs.first [])
    simp only [Kind.freely] at hfreely
    exact hfreely
  | terms =>
    simp only [suits, Bool.and_eq_true, decide_eq_true_eq] at h
    obtain ⟨hterms, hslots⟩ := h
    have hbody : n.kind.hasBody = true := by simp [Kind.hasBody, Kind.isSealed_of_holdsTerms hterms]
    obtain ⟨body, hvalue, -, hheld⟩ := hn.body hbody
    -- Whether terms are replaced or added, what is stored is a list under the inner key.
    have hset (items : List Json) :
        (n.replace .body (.obj (Entries.set body n.inner (.arr items)))).Shaped safe := by
      refine hn.withBody hbody (by rw [hslots]; exact .of_nil _) (fun hsafe => ⟨fun hhas => ?_,
        fun _ => ⟨items, Entries.get?_set_self _ _ _⟩⟩) hn.inner hn.free
      exact absurd hhas (Kind.hasInner_of_holdsTerms hterms)
    simp only [run]
    split
    · refine Node.readHeld_sound hn hbody fun hsafe members hmembers => ?_
      obtain rfl : body = members := Json.obj.inj (hvalue.symm.trans hmembers)
      obtain ⟨items, hitems⟩ := (hheld hsafe).terms hterms
      exact Entries.contains_iff.2 ⟨_, hitems⟩
    · split
      · next items hitems =>
        have hlist : termsOf n args.first = .arr (items.map (·.toJson n)) := by
          simp only [termsOf, hitems]
        rw [hlist]
        unfold Node.writeOption
        rw [hvalue]
        exact sound_shifted (hset _) _
      · unfold Node.appendHeld
        rw [hvalue]
        dsimp only [Json.members?]
        split
        · exact sound_chained (hset _)
        · next value hnolist hget =>
          refine sound_failed hn fun hsafe => ?_
          obtain ⟨items, hitems⟩ := (hheld hsafe).terms hterms
          rw [hget] at hitems
          exact hnolist items (Option.some.inj hitems)
        · next habsent =>
          refine sound_failed hn fun hsafe => ?_
          obtain ⟨items, hitems⟩ := (hheld hsafe).terms hterms
          rw [habsent] at hitems
          cases hitems
  | fieldList =>
    simp only [run]
    split
    · exact Node.read_freely_sound hn h
    · split
      · exact Node.freely_sound hn h _
      · exact sound_refused hn _

/-! ## Places and curves -/

/-- Whether a method about a place is one that nodes of a kind may have. -/
def GeoMethod.suits (m : GeoMethod) (k : Kind) : Bool :=
  match m with
  | pointProperties | pointText | pointHash | pointPair => k = .geoPoint
  | distancePoint => k.hasFreeBody
  | corner key => k.freely .inner key
  | origin => k.freely .inner "origin"

theorem Node.setPoint_sound (hn : n.Shaped safe) (hkind : n.kind = .geoPoint) (point : Json) :
    (n.setPoint point).Sound safe := by
  refine sound_shifted (n := { n with fragment := point }) ?_ _
  refine ⟨hn.concrete, fun hne => absurd hkind hne, fun hbody => ?_, fun hsealed => ?_, hn.slot,
    hn.inner, hn.free⟩
  · change n.kind.hasBody = true at hbody
    rw [hkind] at hbody
    cases hbody
  · change n.kind.isSealed = true at hsealed
    rw [hkind] at hsealed
    cases hsealed

theorem GeoMethod.run_sound {m : GeoMethod} (hn : n.Shaped safe) (h : m.suits n.kind = true)
    (args : Arguments) : (m.run n args).Sound safe := by
  cases m with
  | pointProperties =>
    have hkind := of_decide_eq_true h
    simp only [run]
    split
    · exact Node.readPart_sound hn _
    · split
      · exact Node.setPoint_sound hn hkind _
      · exact sound_noticed hn _
  | pointText | pointHash =>
    have hkind := of_decide_eq_true h
    simp only [run]
    split
    · exact Node.readPart_sound hn _
    · split
      · split
        · exact Node.setPoint_sound hn hkind _
        · exact sound_chained hn
      · exact sound_chained hn
  | pointPair =>
    have hkind := of_decide_eq_true h
    simp only [run]
    split
    · exact Node.readPart_sound hn _
    · split
      · exact Node.setPoint_sound hn hkind _
      · exact sound_chained hn
  | distancePoint =>
    have hfreely := Node.freely_of_hasFreeBody h n.inner
    simp only [run]
    split
    · exact Node.read_freely_sound hn hfreely
    · split
      · exact Node.freely_sound hn hfreely _
      · exact sound_refused hn _
  | corner key =>
    simp only [run]
    split
    · exact Node.read_freely_sound hn h
    · split
      · exact Node.freely_sound hn h _
      · exact sound_refused hn _
  | origin =>
    simp only [run]
    split
    · exact Node.read_freely_sound hn h
    · split
      · exact sound_refused hn _
      · exact Node.freely_sound hn h _

/-- Whether a method about a curve is one that nodes of a kind may have. -/
def DecayMethod.suits (m : DecayMethod) (k : Kind) : Bool :=
  match m with
  | choose curve => k = .score .decay && k.slotKeys.contains curve
  | current => true

theorem DecayMethod.run_sound {m : DecayMethod} (hn : n.Shaped safe) (h : m.suits n.kind = true) :
    (m.run n).Sound safe := by
  cases m with
  | current => exact sound_value hn _
  | choose curve =>
    simp only [suits, Bool.and_eq_true, decide_eq_true_eq] at h
    obtain ⟨hkind, hcurve⟩ := h
    have hbody : n.kind.hasBody = true := by rw [hkind]; rfl
    obtain ⟨members, body, hfragment, hroot, hslot, -, hbodyFits, hheld⟩ := hn.get?_slot hbody
    have hadmits : n.kind.admitsSlot curve = true := by
      rw [hkind] at hcurve ⊢
      exact hcurve
    -- Both keys are keys for a body, so neither is one whose value matters.
    have hfits : Fits n.kind.rootSlots (Entries.rekey members n.slot curve .empty) := by
      refine .intro fun key => ?_
      by_cases hkey : curve = key
      · rw [← hkey, Kind.rootSlots_form_slot hbody hadmits]
        exact .any _
      · by_cases hold : n.slot = key
        · rw [← hold, Kind.rootSlots_form_slot hbody hn.slot]
          exact .any _
        · rw [Entries.get?_rekey_of_ne members hold hkey]
          exact hroot.admits key
    simp only [run, hfragment, Json.members?]
    refine sound_shifted (n := { n with fragment := .obj _, slot := curve }) ?_ _
    refine ⟨hn.concrete, fun _ => ⟨_, rfl, hfits⟩, fun _ => ⟨body, ?_, hbodyFits, hheld⟩,
      fun hsealed => ?_, hadmits, hn.inner, hn.free⟩
    · exact Json.member_of_get? (Entries.get?_rekey_self hslot curve .empty)
    · change n.kind.isSealed = true at hsealed
      rw [hkind] at hsealed
      cases hsealed

/-! ## Buckets -/

/-- Whether an argument is a text or counts as missing. -/
def Argument.IsWord (v : Argument) : Prop := v.isTruthy = false ∨ ∃ text, v.text? = some text

/-- Whether a bucket method is one that nodes of a kind may have. -/
def BucketMethod.suits (m : BucketMethod) (k : Kind) : Bool :=
  match m with
  | pattern key => k.freely .inner key
  | regex => k.freely .inner "regex" && k.freely .inner "regex_flags"
  | order => k.freely .inner "order"
  | bounds => k.freely .inner "extended_bounds"
  | range => k.offers .inner && decide ((k.slotsAt .inner).form "ranges" = .list false)
  | noSubAggregations => true

theorem BucketMethod.exists_direction {v : Argument} (h : v.IsWord) :
    ∃ word notices, direction v = .ok (word, notices) := by
  unfold direction
  rcases h with hfalse | ⟨text, htext⟩
  · exact ⟨"desc", [], by simp [hfalse]⟩
  · simp only [htext]
    split
    · exact ⟨_, _, rfl⟩
    · split <;> exact ⟨_, _, rfl⟩

theorem BucketMethod.run_sound {m : BucketMethod} (hn : n.Shaped safe) (h : m.suits n.kind = true)
    {args : Arguments} (hword : safe → m = .order → (args.get 1 "direction").IsWord) :
    (m.run n args).Sound safe := by
  cases m with
  | pattern key | bounds =>
    simp only [run]
    split
    · exact Node.read_freely_sound hn h
    · exact Node.freely_sound hn h _
  | regex =>
    simp only [suits, Bool.and_eq_true] at h
    simp only [run]
    split
    · exact Node.read_freely_sound hn h.1
    · refine (Node.freely_sound hn h.1 _).andThen fun m hm hshaped => ?_
      have hkind : m.kind = n.kind := by
        rw [hm]
        exact (n.writeOption_keeps _ _ _).kind
      split
      · exact sound_chained hshaped
      · exact Node.freely_sound hshaped (by rw [hkind]; exact h.2) _
  | order =>
    simp only [run]
    split
    · exact Node.read_freely_sound hn h
    · split
      · next fault hfault =>
        refine sound_failed hn fun hsafe => ?_
        obtain ⟨word, notices, hok⟩ := exists_direction (hword hsafe rfl)
        rw [hok] at hfault
        cases hfault
      · exact ⟨(Node.freely_sound hn h _).shaped, (Node.freely_sound hn h _).harmless⟩
  | range =>
    simp only [suits, Bool.and_eq_true, decide_eq_true_eq] at h
    simp only [run]
    split
    · exact Node.readOption_sound hn h.1 _
    · refine Node.appendItem_sound hn h.1 rfl (by rw [h.2]; rfl) fun _ _ _ => ?_
      rw [h.2]
      trivial
  | noSubAggregations =>
    simp only [run]
    split
    · exact sound_value hn _
    · exact sound_refused hn _

end SearchBuilder
