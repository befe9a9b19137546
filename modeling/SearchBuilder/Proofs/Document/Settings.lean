import SearchBuilder.Proofs.Document.Locality

/-!
# Settings

The settings of a node about a field are all that it holds, told without the names under which its
body and its field stand: the other members of the fragment, the other members of the body, and
what is kept for the field. Renaming the field and choosing another curve move members and leave
the settings as they are; every other call sees and changes the settings only.

`Node.Tidy` is what makes that true: apart from the slot and the inner key, the fragment and the
body have options as their keys and nothing else, so no name that is used is in the way of another.
-/

namespace SearchBuilder

/-! ## Members apart from one -/

namespace Entries

variable {α : Type}

/-- What members hold under the keys other than `hidden`. -/
def apartFrom (m : Entries α) (hidden : String) : String → Option α :=
  fun key => if key = hidden then none else get? m key

theorem apartFrom_of_ne (m : Entries α) {hidden key : String} (h : key ≠ hidden) :
    apartFrom m hidden key = get? m key := if_neg h

theorem apartFrom_of_absent {m : Entries α} {hidden : String} (h : get? m hidden = none) :
    apartFrom m hidden = get? m := by
  funext key
  unfold apartFrom
  split
  · next heq => rw [heq, h]
  · rfl

theorem key_of_one {key other : String} {value : α} (h : get? [(key, value)] other ≠ none) :
    other = key := by
  by_cases hsame : key = other
  · exact hsame.symm
  · rw [get?, if_neg hsame, get?] at h
    exact absurd rfl h

theorem apartFrom_one (key : String) (value : α) :
    apartFrom [(key, value)] key = fun _ => none := by
  funext other
  unfold apartFrom
  split
  · rfl
  · next hne => rw [get?, if_neg (Ne.symm hne), get?]

/-- A member that moves to a key that is free stays apart from the same others. -/
theorem apartFrom_rekey {m : Entries α} {old new : String} (h : old ≠ new → get? m new = none)
    (absent : α) : apartFrom (rekey m old new absent) new = apartFrom m old := by
  by_cases hsame : old = new
  · rw [rekey, if_pos hsame, hsame]
  · funext key
    unfold apartFrom
    rw [get?_rekey hsame]
    by_cases hnew : key = new
    · subst hnew
      rw [if_pos rfl, h hsame]
      exact (ite_self _).symm
    · rw [if_neg hnew, if_neg (Ne.symm hnew)]
      by_cases hold : key = old
      · rw [if_pos hold, if_pos hold.symm]
      · rw [if_neg hold, if_neg (Ne.symm hold)]

/-- Moving a member leaves no other keys than the new one and those that were there. -/
theorem key_of_rekey {m : Entries α} {old new key : String} {absent : α}
    (h : get? (rekey m old new absent) key ≠ none) : key = new ∨ key ≠ old ∧ get? m key ≠ none := by
  by_cases hnew : key = new
  · exact .inl hnew
  · by_cases hsame : old = new
    · rw [rekey, if_pos hsame] at h
      exact .inr ⟨hsame ▸ hnew, h⟩
    · rw [get?_rekey hsame, if_neg (Ne.symm hnew)] at h
      split at h
      · exact absurd rfl h
      · next hold => exact .inr ⟨Ne.symm hold, h⟩

theorem apartFrom_congr {m m' : Entries α} {hidden : String}
    (h : ∀ key, hidden ≠ key → get? m' key = get? m key) :
    apartFrom m' hidden = apartFrom m hidden := by
  funext key
  unfold apartFrom
  split
  · rfl
  · next hne => exact h key (Ne.symm hne)

theorem apartFrom_set (m : Entries α) {hidden key : String} (h : key ≠ hidden) (value : α) :
    apartFrom (set m key value) hidden =
      fun other => if key = other then some value else apartFrom m hidden other := by
  funext other
  unfold apartFrom
  rw [get?_set]
  by_cases hhidden : other = hidden
  · rw [if_pos hhidden, if_pos hhidden, if_neg fun hsame => h (hsame.trans hhidden)]
  · rw [if_neg hhidden, if_neg hhidden]

end Entries

/-! ## Kinds with a field -/

/-- The curves of a decay function. -/
def curves : List String := ["gauss", "exp", "linear"]

/-- The option of the body that an operation writes. -/
def Operation.bodyKey? : Operation → Option String
  | .accessor a => if a.place = .body then some a.key else none
  | .field .fieldList => some "fields"
  | .sort (.direction _) => some "order"
  | .sort .script => some "script"
  | _ => none

/-- The option beside the body that an operation writes. -/
def Operation.besideKey? : Operation → Option String
  | .accessor a => if a.place = .root then some a.key else none
  | _ => none

namespace Kind

/-- The kinds whose field can be renamed. -/
def withField : List Kind :=
  [.query .term, .query .wordStart, .query .wildcard, .query .spanTerm, .query .text, .query .range,
    .query .terms, .filter .term, .filter .wordStart, .filter .terms, .filter .range,
    .filter .geoDistance, .filter .geoBox, .score .decay, .sort]

/-- The keys of options in the body. -/
def optionKeys (k : Kind) : List String := k.methods.filterMap (·.2.bodyKey?)

/-- The keys of options beside the body. -/
def besideKeys (k : Kind) : List String := k.methods.filterMap (·.2.besideKey?)

/-- Whether there is something under the field's name from the start. -/
def keepsField (k : Kind) : Bool := k != .filter .geoDistance && k != .sort

/-- Whether the options of a kind may be at a spot. -/
def clears (k : Kind) : Spot → Bool
  | .option .root key => k.besideKeys.contains key
  | .option .body key => k.optionKeys.contains key
  | .option .inner _ => true
  | .field => k != .sort

/-- Where the body of a node about a field may stand. -/
def Stands (k : Kind) (inner slot : String) : Prop :=
  match k with
  | score .decay => slot ∈ curves
  | sort => slot = inner ∨ slot = distanceKey ∨ slot = scriptKey
  | _ => True

/-- The methods of nodes about a field. -/
theorem method_cases {k : Kind} (hk : k ∈ withField) {method : String} {op : Operation}
    (hop : Entries.get? k.methods method = some op) :
    (∃ spots, op.spots? = some spots ∧ ∀ s ∈ spots, k.clears s = true) ∨
      (op.isInspection = true ∨ op = .decay .current) ∨
      method = "field" ∧ (op = .field .rename ∧ k.keepsField = true ∨
        op = .field .renameIfSet ∧ k = .filter .geoDistance ∨ op = .sort .field ∧ k = .sort) ∨
      k = .score .decay ∧ method ∈ curves ∧ op = .decay (.choose method) ∨
      k = .sort ∧ (op = .sort .geoDistance ∨ op = .sort .script) := by
  have htable : ∀ k ∈ withField, ∀ entry ∈ k.methods,
      entry.2.spots?.any (·.all k.clears) = true ∨
        (entry.2.isInspection = true ∨ entry.2 = .decay .current) ∨
        entry.1 = "field" ∧ (entry.2 = .field .rename ∧ k.keepsField = true ∨
          entry.2 = .field .renameIfSet ∧ k = .filter .geoDistance ∨
          entry.2 = .sort .field ∧ k = .sort) ∨
        k = .score .decay ∧ entry.1 ∈ curves ∧ entry.2 = .decay (.choose entry.1) ∨
        k = .sort ∧ (entry.2 = .sort .geoDistance ∨ entry.2 = .sort .script) := by
    decide
  refine (htable k hk _ (Entries.mem_of_get? hop)).imp_left fun hspots => ?_
  cases hop' : op.spots? with
  | none =>
    rw [hop'] at hspots
    cases hspots
  | some spots =>
    rw [hop'] at hspots
    exact ⟨spots, rfl, List.all_eq_true.1 hspots⟩

end Kind

/-- The key under which a sort clause stands if it is none of a field. -/
def Node.switched? (n : Node) : Option String :=
  if n.slot = distanceKey ∨ n.slot = scriptKey then some n.slot else none

/-! ## The invariant -/

/-- A node about a field with its fragment and its body. -/
structure Node.Tidy (n : Node) (members body : Entries Json) : Prop where
  kind : n.kind ∈ Kind.withField
  fragment : n.fragment = .obj members
  slot : Entries.get? members n.slot = some (.obj body)
  beside : ∀ key, Entries.get? members key ≠ none → key = n.slot ∨ key ∈ n.kind.besideKeys
  /-- A sort clause has a member under the field's name only if it sorts by distance. -/
  options : ∀ key, Entries.get? body key ≠ none →
    key ∈ n.kind.optionKeys ∨ key = n.inner ∧ (n.kind = .sort → n.slot = distanceKey)
  field : n.kind.keepsField = true ∨ n.kind = .sort ∧ n.slot = distanceKey →
    Entries.get? body n.inner ≠ none
  stands : n.kind.Stands n.inner n.slot

/-- What a node holds, without the names of its body and its field. -/
@[ext]
structure Node.Settings where
  beside : String → Option Json
  options : String → Option Json
  field : Option Json

namespace Node.Settings

/-- What the settings hold at a spot. -/
def look (c : Settings) : Spot → Option (Option Json)
  | .option .root key => some (c.beside key)
  | .option .body key => some (c.options key)
  | .option .inner key => c.field.bind (·.look [key])
  | .field => some c.field

/-- The settings with a value at a spot. -/
def put (c : Settings) (s : Spot) (value : Json) : Settings :=
  match s with
  | .option .root key =>
    { c with beside := fun other => if key = other then some value else c.beside other }
  | .option .body key =>
    { c with options := fun other => if key = other then some value else c.options other }
  | .option .inner key => { c with field := c.field.map (·.put [key] value) }
  | .field => { c with field := some value }

end Node.Settings

/-- The settings of a node. -/
def Node.settings (n : Node) : Node.Settings where
  beside key := if key = n.slot then none else (n.look (.option .root key)).join
  options key := if key = n.inner then none else (n.look (.option .body key)).join
  field := (n.look .field).join

namespace Node.Tidy

variable {n m : Node} {members body : Entries Json}

theorem look_root (h : n.Tidy members body) (key : String) :
    n.look (.option .root key) = some (Entries.get? members key) := by
  change n.fragment.look [key] = _
  rw [h.fragment]
  rfl

theorem look_body (h : n.Tidy members body) (key : String) :
    n.look (.option .body key) = some (Entries.get? body key) := by
  change n.fragment.look [n.slot, key] = _
  rw [h.fragment, Json.look_cons _ _ (List.cons_ne_nil _ _), h.slot]
  rfl

theorem look_field (h : n.Tidy members body) : n.look .field = some (Entries.get? body n.inner) :=
  h.look_body n.inner

/-- An option of the named body is seen through the body. -/
theorem look_inner (h : n.Tidy members body) (key : String) :
    n.look (.option .inner key) = (Entries.get? body n.inner).bind (·.look [key]) := by
  change n.fragment.look [n.slot, n.inner, key] = _
  rw [h.fragment, Json.look_cons _ _ (List.cons_ne_nil _ _), h.slot]
  exact Json.look_cons _ _ (List.cons_ne_nil _ _)

/-- The settings of a tidy node, by what its parts hold. -/
theorem settings_eq (h : n.Tidy members body) : n.settings =
    { beside := Entries.apartFrom members n.slot
      options := Entries.apartFrom body n.inner
      field := Entries.get? body n.inner } := by
  simp only [settings, h.look_root, h.look_body, h.look_field, Option.join_some]
  rfl

/-- The slot is none of the options beside the body. -/
theorem slot_notMem (h : n.Tidy members body) : n.slot ∉ n.kind.besideKeys := by
  have htable : ∀ k ∈ Kind.withField, k ≠ .score .decay → k.besideKeys = [] := by decide
  by_cases hdecay : n.kind = .score .decay
  · have hstands := h.stands
    rw [hdecay] at hstands ⊢
    have hcurves : ∀ curve ∈ curves,
        curve ∉ (Kind.score .decay).besideKeys := by decide
    exact hcurves _ hstands
  · rw [htable _ h.kind hdecay]
    exact List.not_mem_nil

/-- Where the names of options are avoided, spots of options are seen in the settings. -/
theorem look_eq (h : n.Tidy members body) (hinner : n.inner ∉ n.kind.optionKeys) {s : Spot}
    (hs : n.kind.clears s = true) : n.look s = n.settings.look s := by
  rw [h.settings_eq]
  match s, hs with
  | .option .root key, hs =>
    have hne : key ≠ n.slot := by
      rintro rfl
      exact h.slot_notMem (List.contains_iff_mem.1 hs)
    simp only [h.look_root, Settings.look, Entries.apartFrom_of_ne members hne]
  | .option .body key, hs =>
    have hne : key ≠ n.inner := by
      rintro rfl
      exact hinner (List.contains_iff_mem.1 hs)
    simp only [h.look_body, Settings.look, Entries.apartFrom_of_ne body hne]
  | .option .inner key, _ => exact h.look_inner key
  | .field, _ => exact h.look_field

/-- Another body in the place of the old one, also with another inner key. -/
theorem withBody (h : n.Tidy members body) {inner : String} {body' : Entries Json}
    (hoptions : ∀ key, Entries.get? body' key ≠ none →
      key ∈ n.kind.optionKeys ∨ key = inner ∧ (n.kind = .sort → n.slot = distanceKey))
    (hfield : n.kind.keepsField = true ∨ n.kind = .sort ∧ n.slot = distanceKey →
      Entries.get? body' inner ≠ none)
    (hstands : n.kind.Stands inner n.slot) :
    ({ n with fragment := .obj (Entries.set members n.slot (.obj body')), inner } : Node).Tidy
      (Entries.set members n.slot (.obj body')) body' where
  kind := h.kind
  fragment := rfl
  slot := Entries.get?_set_self _ _ _
  beside := by
    intro key hkey
    by_cases hslot : n.slot = key
    · exact .inl hslot.symm
    · rw [Entries.get?_set_of_ne _ hslot] at hkey
      exact h.beside key hkey
  options := hoptions
  field := hfield
  stands := hstands

/-- Another member beside the body. -/
theorem withMember (h : n.Tidy members body) {key : String} (hkey : key ∈ n.kind.besideKeys)
    (value : Json) : ({ n with fragment := .obj (Entries.set members key value) } : Node).Tidy
      (Entries.set members key value) body where
  kind := h.kind
  fragment := rfl
  slot := by
    have hne : key ≠ n.slot := by
      rintro rfl
      exact h.slot_notMem hkey
    exact (Entries.get?_set_of_ne _ hne _).trans h.slot
  beside := by
    intro other hother
    by_cases hsame : key = other
    · exact .inr (hsame ▸ hkey)
    · rw [Entries.get?_set_of_ne _ hsame] at hother
      exact h.beside other hother
  options := h.options
  field := h.field
  stands := h.stands

/-- A put in the body sets one key of it, or goes into what stands there. -/
theorem putBody (h : n.Tidy members body) {s : Spot} {key : String} {rest : Path}
    (hpath : n.spotPath s = n.slot :: key :: rest) (value : Json)
    (hoption : rest = [] → key ∈ n.kind.optionKeys ∨
      key = n.inner ∧ (n.kind = .sort → n.slot = distanceKey)) :
    ∃ body', (Json.obj body).put (key :: rest) value = .obj body' ∧
      (∀ other, key ≠ other → Entries.get? body' other = Entries.get? body other) ∧
      (n.put s value).Tidy (Entries.set members n.slot (.obj body')) body' := by
  obtain ⟨body', hput, hother, hkept⟩ := Json.put_obj body key rest value
  refine ⟨body', hput, hother, ?_⟩
  have hnode : n.put s value =
      { n with fragment := .obj (Entries.set members n.slot (.obj body')) } := by
    unfold Node.put
    rw [hpath, h.fragment, Json.put_cons_of_some (List.cons_ne_nil _ _) h.slot, hput]
  rw [hnode]
  refine h.withBody (fun other hpresent => ?_) (fun hkeeps => ?_) h.stands
  · by_cases hsame : key = other
    · subst hsame
      cases hpresent' : Entries.get? body key with
      | some inside => exact h.options key (hpresent' ▸ Option.some_ne_none inside)
      | none =>
        refine hoption (Decidable.byContradiction fun hrest => hpresent ?_)
        rw [Json.put_cons_of_none hrest hpresent'] at hput
        rw [← Json.obj.inj hput, hpresent']
    · exact h.options other (hother other hsame ▸ hpresent)
  · by_cases hsame : key = n.inner
    · exact hsame ▸ hkept (hsame ▸ h.field hkeeps)
    · rw [hother _ hsame]
      exact h.field hkeeps

/-- A put at the spot of an option leaves a tidy node. If no option is in the way of the field, it
is the same put into the settings. -/
theorem put (h : n.Tidy members body) {s : Spot} (hs : n.kind.clears s = true) (value : Json) :
    ∃ members' body', (n.put s value).Tidy members' body' ∧
      (n.inner ∉ n.kind.optionKeys → (n.put s value).settings = n.settings.put s value) := by
  have hbeside (body' : Entries Json) :
      Entries.apartFrom (Entries.set members n.slot (.obj body')) n.slot =
        Entries.apartFrom members n.slot :=
    Entries.apartFrom_congr fun key hne => Entries.get?_set_of_ne members hne _
  match s, hs with
  | .option .root key, hs =>
    have hmem := List.contains_iff_mem.1 hs
    have hne : key ≠ n.slot := by
      rintro rfl
      exact h.slot_notMem hmem
    have hnode : n.put (.option .root key) value =
        { n with fragment := .obj (Entries.set members key value) } := by
      unfold Node.put
      rw [h.fragment]
      rfl
    have htidy := h.withMember hmem value
    refine ⟨_, _, hnode ▸ htidy, fun _ => ?_⟩
    rw [hnode, htidy.settings_eq, h.settings_eq]
    exact Settings.ext (Entries.apartFrom_set members hne value) rfl rfl
  | .option .body key, hs =>
    have hmem := List.contains_iff_mem.1 hs
    obtain ⟨body', hput, hother, htidy⟩ :=
      h.putBody (s := .option .body key) rfl value fun _ => .inl hmem
    obtain rfl : Entries.set body key value = body' := Json.obj.inj hput
    refine ⟨_, _, htidy, fun hinner => ?_⟩
    have hne : key ≠ n.inner := by
      rintro rfl
      exact hinner hmem
    rw [htidy.settings_eq, h.settings_eq]
    exact Settings.ext (hbeside _) (Entries.apartFrom_set body hne value) (hother _ hne)
  | .option .inner key, _ =>
    obtain ⟨body', hput, hother, htidy⟩ :=
      h.putBody (s := .option .inner key) rfl value fun hrest => absurd hrest (List.cons_ne_nil _ _)
    refine ⟨_, _, htidy, fun _ => ?_⟩
    rw [htidy.settings_eq, h.settings_eq]
    refine Settings.ext (hbeside _) (Entries.apartFrom_congr hother) ?_
    replace hput : (Json.obj body).put [n.inner, key] value = .obj body' := hput
    change Entries.get? body' n.inner = (Entries.get? body n.inner).map (·.put [key] value)
    cases hinside : Entries.get? body n.inner with
    | none =>
      rw [Json.put_cons_of_none (List.cons_ne_nil _ _) hinside] at hput
      rw [← Json.obj.inj hput, hinside]
      rfl
    | some inside =>
      rw [Json.put_cons_of_some (List.cons_ne_nil _ _) hinside] at hput
      rw [← Json.obj.inj hput, Entries.get?_set_self]
      rfl
  | .field, hs =>
    have hsort : n.kind ≠ .sort := by simpa [Kind.clears] using hs
    obtain ⟨body', hput, hother, htidy⟩ :=
      h.putBody (s := .field) rfl value fun _ => .inr ⟨rfl, fun hkind => absurd hkind hsort⟩
    refine ⟨_, _, htidy, fun _ => ?_⟩
    rw [htidy.settings_eq, h.settings_eq]
    refine Settings.ext (hbeside _) (Entries.apartFrom_congr hother) ?_
    rw [← Json.obj.inj hput]
    exact Entries.get?_set_self _ _ _

/-- Writes that are clear of names keep a node tidy and are writes to its settings. -/
theorem puts (h : n.Tidy members body) {writes : List (Spot × Json)}
    (hwrites : ∀ write ∈ writes, n.kind.clears write.1 = true) :
    ∃ members' body', (n.puts writes).Tidy members' body' ∧
      (n.inner ∉ n.kind.optionKeys → (n.puts writes).settings =
        writes.foldl (fun c write => c.put write.1 write.2) n.settings) := by
  induction writes generalizing n members body with
  | nil => exact ⟨members, body, h, fun _ => rfl⟩
  | cons write rest ih =>
    obtain ⟨members', body', htidy, hsettings⟩ := h.put (hwrites write List.mem_cons_self) write.2
    obtain ⟨members'', body'', htidy', hsettings'⟩ :=
      ih htidy fun later hlater => hwrites later (List.mem_cons_of_mem _ hlater)
    refine ⟨members'', body'', htidy', fun hinner => ?_⟩
    rw [List.foldl_cons, ← hsettings hinner]
    exact hsettings' hinner

/-! ## Moving members -/

/-- Nothing in the body stands in the way of a name that is no option. -/
theorem absent (h : n.Tidy members body) {name : String} (hname : name ∉ n.kind.optionKeys)
    (hne : n.inner ≠ name) : Entries.get? body name = none :=
  Decidable.byContradiction fun hpresent =>
    (h.options name hpresent).elim hname fun heq => hne heq.1.symm

/-- A name for a field that has nothing yet. -/
theorem withInner (h : n.Tidy members body) {inner : String}
    (hnone : Entries.get? body n.inner = none) (hstands : n.kind.Stands inner n.slot) :
    ({ n with inner } : Node).Tidy members body where
  kind := h.kind
  fragment := h.fragment
  slot := h.slot
  beside := h.beside
  options := by
    intro key hkey
    rcases h.options key hkey with hoption | ⟨rfl, -⟩
    · exact .inl hoption
    · exact absurd hnone hkey
  field := fun hkept => absurd hnone (h.field hkept)
  stands := hstands

/-- A name under which nothing is kept can be changed without a trace in the settings. -/
theorem settings_withInner (h : n.Tidy members body) {inner : String}
    (hnone : Entries.get? body n.inner = none) (hstands : n.kind.Stands inner n.slot)
    (hinner : inner ∉ n.kind.optionKeys) : ({ n with inner } : Node).settings = n.settings := by
  have hnone' : Entries.get? body inner = none := by
    by_cases hsame : n.inner = inner
    · exact hsame ▸ hnone
    · exact h.absent hinner hsame
  rw [(h.withInner hnone hstands).settings_eq, h.settings_eq]
  refine Settings.ext rfl ?_ (hnone'.trans hnone.symm)
  exact (Entries.apartFrom_of_absent hnone').trans (Entries.apartFrom_of_absent hnone).symm

theorem valueAt_body (h : n.Tidy members body) : n.valueAt .body = .obj body := by
  change n.fragment.member n.slot = _
  rw [h.fragment]
  exact Json.member_of_get? h.slot

theorem renameInner_state (h : n.Tidy members body) (name : String) :
    (n.renameInner name).state = { n with
      fragment := .obj (Entries.set members n.slot (.obj (Entries.rekey body n.inner name .empty)))
      inner := name } := by
  unfold renameInner
  rw [h.valueAt_body]
  change ({ n with fragment := n.fragment.setMember n.slot _, inner := name } : Node) = _
  rw [h.fragment]
  rfl

/-- What a field has moves with its name. -/
theorem renameInner (h : n.Tidy members body) (hheld : Entries.get? body n.inner ≠ none)
    (hsort : n.kind = .sort → n.slot = distanceKey) (name : String) :
    (n.renameInner name).state.Tidy
      (Entries.set members n.slot (.obj (Entries.rekey body n.inner name .empty)))
      (Entries.rekey body n.inner name .empty) := by
  obtain ⟨value, hvalue⟩ := Option.ne_none_iff_exists'.1 hheld
  rw [h.renameInner_state]
  refine h.withBody (fun key hkey => ?_) (fun _ => ?_) ?_
  · rcases Entries.key_of_rekey hkey with hname | ⟨hold, hpresent⟩
    · exact .inr ⟨hname, hsort⟩
    · exact (h.options key hpresent).imp_right fun hinner => absurd hinner.1 hold
  · rw [Entries.get?_rekey_self hvalue]
    exact Option.some_ne_none value
  · have hstands := h.stands
    unfold Kind.Stands at hstands ⊢
    split
    · next hkind => rw [hkind] at hstands; exact hstands
    · next hkind => exact .inr (.inl (hsort hkind))
    · trivial

/-- Renaming what a node is about leaves its settings as they are. -/
theorem settings_renameInner (h : n.Tidy members body)
    (hheld : Entries.get? body n.inner ≠ none) (hsort : n.kind = .sort → n.slot = distanceKey)
    {name : String} (hname : name ∉ n.kind.optionKeys) :
    (n.renameInner name).state.settings = n.settings := by
  obtain ⟨value, hvalue⟩ := Option.ne_none_iff_exists'.1 hheld
  rw [(h.renameInner hheld hsort name).settings_eq, h.settings_eq, h.renameInner_state]
  refine Settings.ext ?_ ?_ ?_
  · exact Entries.apartFrom_congr fun key hne => Entries.get?_set_of_ne members hne _
  · exact Entries.apartFrom_rekey (h.absent hname) _
  · exact (Entries.get?_rekey_self hvalue _ _).trans hvalue.symm

/-- A field that is renamed keeps what it has, also if that is nothing yet. -/
theorem rename (h : n.Tidy members body) {f : FieldMethod}
    (hf : f = .rename ∧ n.kind.keepsField = true ∨
      f = .renameIfSet ∧ n.kind = .filter .geoDistance)
    {args : Arguments} (hgiven : args.first.isNull = false) :
    ∃ members' body', (f.run n args).state.Tidy members' body' ∧
      (args.first.name ∉ n.kind.optionKeys → (f.run n args).state.settings = n.settings) ∧
      (f.run n args).state.inner = args.first.name ∧ (f.run n args).state.slot = n.slot := by
  have hmoved (hheld : Entries.get? body n.inner ≠ none) (hsort : n.kind ≠ .sort)
      (hrun : f.run n args = n.renameInner args.first.name) :
      ∃ members' body', (f.run n args).state.Tidy members' body' ∧
        (args.first.name ∉ n.kind.optionKeys → (f.run n args).state.settings = n.settings) ∧
        (f.run n args).state.inner = args.first.name ∧ (f.run n args).state.slot = n.slot := by
    have hdistance : n.kind = .sort → n.slot = distanceKey := fun hkind => absurd hkind hsort
    rw [hrun]
    refine ⟨_, _, h.renameInner hheld hdistance args.first.name,
      h.settings_renameInner hheld hdistance, ?_, ?_⟩
    · rw [h.renameInner_state]
    · rw [h.renameInner_state]
  rcases hf with ⟨rfl, hkeeps⟩ | ⟨rfl, hkind⟩
  · refine hmoved (h.field (.inl hkeeps)) ?_ ?_
    · intro hsort
      rw [hsort] at hkeeps
      cases hkeeps
    · simp only [FieldMethod.run, hgiven, Bool.false_eq_true, if_false]
  · have hsort : n.kind ≠ .sort := by
      rw [hkind]
      decide
    cases hvalue : Entries.get? body n.inner with
    | some value =>
      refine hmoved (hvalue ▸ Option.some_ne_none value) hsort ?_
      simp only [FieldMethod.run, hgiven, h.valueAt_body, Json.members?, Entries.contains, hvalue,
        Option.isSome_some, Bool.false_eq_true, if_false, if_true]
    | none =>
      have hrun : (FieldMethod.renameIfSet.run n args).state =
          { n with inner := args.first.name } := by
        simp only [FieldMethod.run, hgiven, h.valueAt_body, Json.members?, Entries.contains,
          hvalue, Option.isSome_none, Bool.false_eq_true, if_false]
        rfl
      have hstands : n.kind.Stands args.first.name n.slot := by
        rw [hkind]
        trivial
      rw [hrun]
      exact ⟨_, _, h.withInner hvalue hstands, h.settings_withInner hvalue hstands, rfl, rfl⟩

/-- The body stands under the name of another curve. -/
theorem choose (h : n.Tidy members body) (hkind : n.kind = .score .decay) {curve : String}
    (hcurve : curve ∈ curves) :
    ((DecayMethod.choose curve).run n).state.Tidy (Entries.rekey members n.slot curve .empty) body ∧
      ((DecayMethod.choose curve).run n).state.settings = n.settings ∧
      ((DecayMethod.choose curve).run n).state.slot = curve ∧
      ((DecayMethod.choose curve).run n).state.inner = n.inner := by
  have hstate : ((DecayMethod.choose curve).run n).state =
      { n with fragment := .obj (Entries.rekey members n.slot curve .empty), slot := curve } := by
    simp only [DecayMethod.run, h.fragment]
    rfl
  have hfree : curve ∉ n.kind.besideKeys := by
    have hcurves : ∀ curve ∈ curves,
        curve ∉ (Kind.score .decay).besideKeys := by decide
    exact hkind ▸ hcurves curve hcurve
  have hdecay : n.kind ≠ .sort := by
    rw [hkind]
    decide
  have hnone (hne : n.slot ≠ curve) : Entries.get? members curve = none :=
    Decidable.byContradiction fun hpresent =>
      (h.beside curve hpresent).elim (fun heq => hne heq.symm) hfree
  have htidy : Tidy { n with
      fragment := .obj (Entries.rekey members n.slot curve .empty), slot := curve }
      (Entries.rekey members n.slot curve .empty) body := by
    refine ⟨h.kind, rfl, Entries.get?_rekey_self h.slot _ _, fun key hkey => ?_, fun key hkey => ?_,
      fun hkept => ?_, ?_⟩
    · exact (Entries.key_of_rekey hkey).imp_right fun hother =>
        (h.beside key hother.2).resolve_left hother.1
    · exact (h.options key hkey).imp_right fun hinner =>
        ⟨hinner.1, fun hsort => absurd hsort hdecay⟩
    · exact h.field (hkept.imp_right fun hsort => absurd hsort.1 hdecay)
    · simp only [hkind]
      exact hcurve
  rw [hstate]
  refine ⟨htidy, ?_, rfl, rfl⟩
  rw [htidy.settings_eq, h.settings_eq]
  exact Settings.ext (Entries.apartFrom_rekey hnone _) rfl rfl

/-! ## Sort clauses -/

/-- A sort clause under the name of a field moves to the new name. -/
theorem renameClause_state (h : n.Tidy members body) (hdistance : n.slot ≠ distanceKey)
    (hscript : n.slot ≠ scriptKey) (name : String) : (n.renameClause name).state =
      { n with
        fragment := .obj (Entries.rekey members n.slot name .empty), slot := name, inner := name
      } := by
  unfold Node.renameClause
  rw [if_neg hdistance, if_neg hscript, h.fragment]
  rfl

/-- Renaming a clause leaves its settings as they are. -/
theorem renameClause (h : n.Tidy members body) (hkind : n.kind = .sort)
    (hinner : n.inner ∉ n.kind.optionKeys) {name : String} (hname : name ∉ n.kind.optionKeys)
    (hfield : name ≠ distanceKey ∧ name ≠ scriptKey) :
    ∃ members' body', (n.renameClause name).state.Tidy members' body' ∧
      (n.renameClause name).state.settings = n.settings ∧
      (n.renameClause name).state.inner = name ∧
      (n.renameClause name).state.switched? = n.switched? := by
  by_cases hdistance : n.slot = distanceKey
  · have hstate : n.renameClause name = n.renameInner name := by
      unfold Node.renameClause
      rw [if_pos hdistance]
    have hheld := h.field (.inr ⟨hkind, hdistance⟩)
    rw [hstate]
    refine ⟨_, _, h.renameInner hheld (fun _ => hdistance) name,
      h.settings_renameInner hheld (fun _ => hdistance) hname, ?_, ?_⟩
    · rw [h.renameInner_state]
    · rw [h.renameInner_state]
      rfl
  · -- The field is no member of the body, so the body has nothing to move.
    have hnone {name : String} (hname : name ∉ n.kind.optionKeys) :
        Entries.get? body name = none :=
      Decidable.byContradiction fun hpresent =>
        (h.options name hpresent).elim hname fun hself => hdistance (hself.2 hkind)
    by_cases hscript : n.slot = scriptKey
    · have hstate : (n.renameClause name).state = { n with inner := name } := by
        unfold Node.renameClause
        rw [if_neg hdistance, if_pos hscript]
        rfl
      have hstands : n.kind.Stands name n.slot := by
        rw [hkind]
        exact .inr (.inr hscript)
      rw [hstate]
      exact ⟨_, _, h.withInner (hnone hinner) hstands,
        h.settings_withInner (hnone hinner) hstands hname, rfl, rfl⟩
    · rw [h.renameClause_state hdistance hscript]
      have htidy : Tidy { n with
          fragment := .obj (Entries.rekey members n.slot name .empty), slot := name, inner := name }
          (Entries.rekey members n.slot name .empty) body := by
        refine ⟨h.kind, rfl, Entries.get?_rekey_self h.slot _ _, fun key hkey => ?_,
          fun key hkey => ?_, ?_, ?_⟩
        · exact (Entries.key_of_rekey hkey).imp_right fun hother =>
            (h.beside key hother.2).resolve_left hother.1
        · refine .inl ((h.options key hkey).resolve_right fun hself => hdistance (hself.2 hkind))
        · rintro (hkept | ⟨-, hslot⟩)
          · rw [hkind] at hkept
            cases hkept
          · exact absurd hslot hfield.1
        · rw [hkind]
          exact .inl rfl
      have hfree : n.slot ≠ name → Entries.get? members name = none := by
        refine fun hne => Decidable.byContradiction fun hpresent => ?_
        rcases h.beside name hpresent with hslot | hbeside
        · exact hne hslot.symm
        · rw [hkind] at hbeside
          exact absurd hbeside List.not_mem_nil
      refine ⟨_, _, htidy, ?_, rfl, ?_⟩
      · rw [htidy.settings_eq, h.settings_eq]
        refine Settings.ext (Entries.apartFrom_rekey hfree _) ?_ ?_
        · exact (Entries.apartFrom_of_absent (hnone hname)).trans
            (Entries.apartFrom_of_absent (hnone hinner)).symm
        · exact (hnone hname).trans (hnone hinner).symm
      · unfold switched?
        rw [if_neg (not_or.2 hfield), if_neg (not_or.2 ⟨hdistance, hscript⟩)]

/-- A clause that starts anew under another key has nothing but its new body. -/
theorem switchClause (h : n.Tidy members body) (hkind : n.kind = .sort) {slot key : String}
    (hkey : key = n.inner ∧ slot = distanceKey ∨ key ∈ n.kind.optionKeys ∧ slot = scriptKey)
    (value : Json) : (n.switchClause slot [(key, value)]).state.Tidy
      [(slot, .obj [(key, value)])] [(key, value)] where
  kind := h.kind
  fragment := rfl
  slot := by
    change Entries.get? [(slot, _)] slot = _
    rw [Entries.get?, if_pos rfl]
  beside := fun other hother => .inl (Entries.key_of_one hother)
  options := by
    intro other hother
    obtain rfl := Entries.key_of_one hother
    exact (hkey.imp_right And.left).symm.imp_right fun hself => ⟨hself.1, fun _ => hself.2⟩
  field := by
    intro hkept
    rcases hkey with ⟨hself, -⟩ | ⟨-, hslot⟩
    · change Entries.get? [(key, value)] n.inner ≠ none
      rw [hself, Entries.get?, if_pos rfl]
      exact Option.some_ne_none value
    · rcases hkept with hkept | hdistance
      · exact absurd (hkind ▸ hkept : Kind.sort.keepsField = true) (by decide)
      · exact absurd (hslot.symm.trans hdistance.2) (by decide)
  stands := by
    change n.kind.Stands n.inner slot
    rw [hkind]
    exact .inr (hkey.imp And.right And.right)

/-- A clause that sorts by distance is set to its point alone. -/
theorem settings_distance (h : n.Tidy members body) (hkind : n.kind = .sort) (value : Json) :
    (n.switchClause distanceKey [(n.inner, value)]).state.settings =
      { beside := fun _ => none, options := fun _ => none, field := some value } := by
  rw [(h.switchClause hkind (.inl ⟨rfl, rfl⟩) value).settings_eq]
  refine Settings.ext (Entries.apartFrom_one _ _) (Entries.apartFrom_one _ _) ?_
  change Entries.get? [(n.inner, value)] n.inner = some value
  rw [Entries.get?, if_pos rfl]

/-- A clause that sorts by a script is set to it alone. -/
theorem settings_script (h : n.Tidy members body) (hkind : n.kind = .sort)
    (hinner : n.inner ∉ n.kind.optionKeys) (value : Json) :
    (n.switchClause scriptKey [("script", value)]).state.settings =
      { beside := fun _ => none, options := Entries.get? [("script", value)], field := none } := by
  have hscript : "script" ∈ n.kind.optionKeys := by
    rw [hkind]
    decide
  have hnone : Entries.get? [("script", value)] n.inner = none :=
    Decidable.byContradiction fun hpresent => hinner (Entries.key_of_one hpresent ▸ hscript)
  rw [(h.switchClause hkind (.inr ⟨hscript, rfl⟩) value).settings_eq]
  exact Settings.ext (Entries.apartFrom_one _ _) (Entries.apartFrom_of_absent hnone) hnone

end Node.Tidy

end SearchBuilder
