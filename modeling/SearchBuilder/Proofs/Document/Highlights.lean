import SearchBuilder.Proofs.Document.Locality

/-!
# What a highlight stores

A highlight is a store of options at two levels: for all fields and for single ones. `Highlighting`
is that store as its users see it, the names that were given and the last value of every option at
every level, and `Highlighting.step` says what a call that is accepted does to it.

Along every run of calls the fragment shows this store and nothing else: an option is read as the
last value that was stored for it at that very level, and the fields are the names that were given,
each once, in the order in which they were first given (`Node.highlight_stores`).
-/

namespace SearchBuilder

/-! ## The store -/

/-- What a call that is accepted does to a highlight. -/
inductive HighlightEvent where
  | fields (names : List String)
  /-- The value of an option, for all fields or for one. -/
  | option (key : String) (field : Option String) (value : Json)

namespace HighlightEvent

/-- The fields that a call names. -/
def names : HighlightEvent → List String
  | fields names => names
  | option _ field _ => field.toList

/-- The value that a call stores for an option at a level. -/
def valueAt? (key : String) (field : Option String) : HighlightEvent → Option Json
  | fields _ => none
  | option key' field' value => if key' = key ∧ field' = field then some value else none

/-- The last value that some calls store for an option at a level. -/
def lastValue? (events : List HighlightEvent) (key : String) (field : Option String) :
    Option Json :=
  (events.filterMap (valueAt? key field)).getLast?

end HighlightEvent

/-- What a highlight stores: the names that fields were given, as often as they were given, and the
options. -/
structure Highlighting where
  named : List String := []
  options : String → Option String → Option Json := fun _ _ => none

namespace Highlighting

/-- The store after a call that is accepted. -/
def step (s : Highlighting) (event : HighlightEvent) : Highlighting where
  named := s.named ++ event.names
  options key field := (event.valueAt? key field).or (s.options key field)

/-- The store after calls that are accepted in turn. -/
def after (s : Highlighting) (events : List HighlightEvent) : Highlighting := events.foldl step s

/-- The named fields are those of all events, in their order. -/
theorem named_after (s : Highlighting) (events : List HighlightEvent) :
    (s.after events).named = s.named ++ events.flatMap HighlightEvent.names := by
  induction events generalizing s with
  | nil => exact (List.append_nil _).symm
  | cons event rest ih =>
    rw [after, List.foldl_cons, ← after, ih, List.flatMap_cons, step, List.append_assoc]

/-- An option is the value of its last event, or else what it was. -/
theorem options_after (s : Highlighting) (events : List HighlightEvent) (key : String)
    (field : Option String) :
    (s.after events).options key field =
      (HighlightEvent.lastValue? events key field).or (s.options key field) := by
  induction events generalizing s with
  | nil => rfl
  | cons event rest ih =>
    rw [after, List.foldl_cons, ← after, ih]
    unfold step HighlightEvent.lastValue?
    dsimp only
    cases hvalue : event.valueAt? key field with
    | none => rw [List.filterMap_cons_none hvalue, Option.none_or]
    | some value =>
      rw [List.filterMap_cons_some hvalue, List.getLast?_cons]
      cases (rest.filterMap (HighlightEvent.valueAt? key field)).getLast? <;> rfl

end Highlighting

/-! ## Options -/

/-- What an option of a highlight may be given. -/
inductive HighlightForm where
  /-- Any value. -/
  | any
  /-- One of a few words, stored in small letters. -/
  | word (words : List String)
  /-- One of a few words, for all fields only. -/
  | sharedWord (words : List String)
  /-- One text or a list of texts, stored as a list. -/
  | texts
  /-- An object. -/
  | object
  deriving DecidableEq, Repr

/-- The options of a highlight. -/
def highlightForms : List (String × HighlightForm) :=
  [("pre_tags", .texts), ("post_tags", .texts), ("order", .word ["score"]),
    ("type", .word ["highlighter", "plain", "fast-vector-highlighter", "postings"]),
    ("fragmenter", .word ["simple", "span"]), ("tags_schema", .sharedWord ["styled"]),
    ("encoder", .sharedWord ["default", "html"]), ("options", .object), ("highlight_filter", .any),
    ("fragment_size", .any), ("number_of_fragments", .any), ("require_field_match", .any),
    ("boundary_max_scan", .any), ("boundary_chars", .any)]

namespace HighlightForm

/-- The argument that is to be stored. -/
def given (args : Arguments) : HighlightForm → Argument
  | sharedWord _ => args.first
  | _ => args.first ["field"]

/-- The field that a call is for, if it names one. -/
def field? (args : Arguments) : HighlightForm → Option String
  | sharedWord _ => none
  | _ => HighlightMethod.fieldOf args

/-- What is stored for an argument, if it is accepted. -/
def stored? (n : Node) (v : Argument) : HighlightForm → Option Json
  | any => some (v.toJson n)
  | word words | sharedWord words =>
    v.text?.bind fun text => if lower text ∈ words then some (.str (lower text)) else none
  | texts => v.names?.map .ofStrings
  | object =>
    match v with
    | .plain (.obj members) => some (.obj members)
    | _ => none

/-- What becomes of an argument from which nothing is stored: a word that is not known is dropped,
any other argument is blamed. -/
def missed (n : Node) (key : String) (v : Argument) : HighlightForm → Outcome Node
  | word _ | sharedWord _ =>
    match v.text? with
    | some text => .noticed n (.ignoredWord key n.kind.name text)
    | none => .refused n (.notText key)
  | texts => .refused n (.notNames key)
  | any | object => .refused n .notObject

/-- The operation of an option. -/
def operation (key : String) : HighlightForm → Operation
  | any => .highlight (.option key)
  | word words => .highlight (.choice key words)
  | sharedWord words => .choice .root key words
  | texts => .highlight (.tags key)
  | object => .highlight (.settings key)

end HighlightForm

namespace Node

/-- What a call does to a highlight, if it is accepted: nothing when it reads, when its argument is
of a wrong kind and when it is a word that the option does not know. -/
def highlightEvent? (n : Node) (call : String × Arguments) : Option HighlightEvent :=
  if call.1 = "fields" then
    let v := call.2.first ["field"]
    if v.isNull then none else v.names?.map .fields
  else
    (Entries.get? highlightForms call.1).bind fun form =>
      if (form.given call.2).isNull then none
      else (form.stored? n (form.given call.2)).map (.option call.1 (form.field? call.2))

/-- What the calls of a run do to a highlight, in turn. -/
def highlightEvents (n : Node) : List (String × Arguments) → List HighlightEvent
  | [] => []
  | call :: rest =>
    (n.highlightEvent? call).toList ++ (n.call call.1 call.2).state.highlightEvents rest

/-- A highlight with members. -/
def highlight (members : Entries Json) : Node := { kind := .highlight, fragment := .obj members }

end Node

/-! ## The fragment shows the store -/

/-- Members and fields that hold what a store has to show. The fields may be missing as long as
there are none. -/
structure Highlighting.Shows (s : Highlighting) (members fields : Entries Json) : Prop where
  listed : Entries.get? members "fields" = some (.obj fields) ∨
    Entries.get? members "fields" = none ∧ fields = []
  names : fields.map (·.1) = s.named.eraseDups
  shared : ∀ key, key ≠ "fields" → Entries.get? members key = s.options key none
  own : ∀ name value, Entries.get? fields name = some value →
    ∃ options, value = .obj options ∧ ∀ key, Entries.get? options key = s.options key (some name)
  unnamed : ∀ name, name ∉ s.named → ∀ key, s.options key (some name) = none

namespace Highlighting

variable {s : Highlighting} {members fields : Entries Json}

theorem Shows.start : Shows {} [] [] where
  listed := .inr ⟨rfl, rfl⟩
  names := rfl
  shared := fun _ _ => rfl
  own := fun _ _ h => by cases h
  unnamed := fun _ _ _ => rfl

/-- The fields are begun if there are none. -/
theorem Shows.openFields (h : s.Shows members fields) :
    ∃ members', (Node.highlight members).openSlot .root "fields" .empty =
        .ok (Node.highlight members') ∧
      s.Shows members' fields ∧ Entries.get? members' "fields" = some (.obj fields) := by
  refine ⟨Entries.setDefault members "fields" .empty, rfl, ?_⟩
  obtain hlisted | ⟨habsent, rfl⟩ := h.listed
  · rw [Entries.setDefault_of_get? hlisted]
    exact ⟨h, hlisted⟩
  · rw [Entries.setDefault_of_absent habsent]
    have hbegun : Entries.get? (Entries.set members "fields" Json.empty) "fields" =
        some (.obj []) := Entries.get?_set_self ..
    refine ⟨⟨.inl hbegun, h.names, fun key hkey => ?_, h.own, h.unnamed⟩, hbegun⟩
    rw [Entries.get?_set_of_ne members (Ne.symm hkey), h.shared key hkey]

/-- Other fields in the place of those that are there. -/
theorem Shows.setFields (h : s.Shows members fields) {s' : Highlighting} {fields' : Entries Json}
    (hnames : fields'.map (·.1) = s'.named.eraseDups)
    (hshared : ∀ key, s'.options key none = s.options key none)
    (hown : ∀ name value, Entries.get? fields' name = some value →
      ∃ options, value = .obj options ∧
        ∀ key, Entries.get? options key = s'.options key (some name))
    (hunnamed : ∀ name, name ∉ s'.named → ∀ key, s'.options key (some name) = none) :
    s'.Shows (Entries.set members "fields" (.obj fields')) fields' where
  listed := .inl (Entries.get?_set_self ..)
  names := hnames
  shared := by
    intro key hkey
    rw [Entries.get?_set_of_ne members (Ne.symm hkey), h.shared key hkey, hshared]
  own := hown
  unnamed := hunnamed

/-- A field is named if the fields of the highlight hold it. -/
theorem Shows.mem_named_iff (h : s.Shows members fields) {name : String} :
    name ∈ s.named ↔ ∃ value, Entries.get? fields name = some value := by
  rw [← List.mem_eraseDups, ← h.names, ← Option.ne_none_iff_exists', ne_eq,
    Entries.get?_eq_none_iff, Decidable.not_not]

theorem keys_setDefault {named : List String} (hnames : fields.map (·.1) = named.eraseDups)
    (name : String) (start : Json) :
    (Entries.setDefault fields name start).map (·.1) = (named ++ [name]).eraseDups := by
  have hmem : name ∈ fields.map (·.1) ↔ name ∈ named := by rw [hnames, List.mem_eraseDups]
  rw [List.eraseDups_append]
  cases hget : Entries.get? fields name with
  | some value =>
    have hnamed : name ∈ named := hmem.1 (List.mem_map_of_mem (Entries.mem_of_get? hget))
    rw [Entries.setDefault_of_get? hget, hnames]
    simp [List.removeAll, hnamed]
  | none =>
    have hfields := Entries.get?_eq_none_iff.1 hget
    have hnamed : name ∉ named := fun h => hfields (hmem.2 h)
    rw [Entries.setDefault_of_absent hget, Entries.keys_set, if_neg hfields, hnames]
    simp [List.removeAll, hnamed, List.eraseDups_cons]

theorem Shows.options_of_absent (h : s.Shows members fields) {name : String}
    (hname : Entries.get? fields name = none) (key : String) :
    s.options key (some name) = none := by
  refine h.unnamed name (fun hmem => ?_) key
  obtain ⟨value, hvalue⟩ := h.mem_named_iff.1 hmem
  rw [hvalue] at hname
  cases hname

theorem Shows.own_setDefault (h : s.Shows members fields) (name : String) :
    ∀ other value, Entries.get? (Entries.setDefault fields name .empty) other = some value →
      ∃ options, value = .obj options ∧
        ∀ key, Entries.get? options key = s.options key (some other) := by
  intro other value hvalue
  cases hname : Entries.get? fields name with
  | some held =>
    rw [Entries.setDefault_of_get? hname] at hvalue
    exact h.own other value hvalue
  | none =>
    rw [Entries.setDefault_of_absent hname, Entries.get?_set] at hvalue
    split at hvalue
    · next hsame =>
      subst hsame
      exact ⟨[], (Option.some.inj hvalue).symm, fun key => (h.options_of_absent hname key).symm⟩
    · exact h.own other value hvalue

/-- A field is added with no options, unless it is there. -/
theorem Shows.addField (h : s.Shows members fields) (name : String) :
    ∃ members' fields', (Node.highlight members).addField name = .ok (Node.highlight members') ∧
      (s.step (.fields [name])).Shows members' fields' ∧
      Entries.get? members' "fields" = some (.obj fields') ∧
      ∃ options, Entries.get? fields' name = some (.obj options) := by
  obtain ⟨opened, hopen, hshows, hbegun⟩ := h.openFields
  let fields' := Entries.setDefault fields name .empty
  have hadd : (Node.highlight members).addField name =
      .ok (Node.highlight (Entries.set opened "fields" (.obj fields'))) := by
    unfold Node.addField
    rw [hopen]
    simp only [Node.highlight, Json.member_of_get? hbegun]
    rfl
  have hshown : (s.step (.fields [name])).Shows (Entries.set opened "fields" (.obj fields'))
      fields' := by
    refine hshows.setFields (keys_setDefault h.names name .empty) (fun _ => rfl)
      (h.own_setDefault name) ?_
    intro other hother
    exact h.unnamed other fun hmem => hother (List.mem_append_left _ hmem)
  obtain ⟨value, hvalue⟩ := hshown.mem_named_iff.1 (List.mem_append_right _ List.mem_cons_self)
  obtain ⟨options, rfl, -⟩ := h.own_setDefault name name value hvalue
  exact ⟨_, fields', hadd, hshown, Entries.get?_set_self .., options, hvalue⟩

/-- Naming fields shows what the event says. -/
theorem Shows.addFields (h : s.Shows members fields) (names : List String) :
    ∃ members' fields', names.foldlM Node.addField (Node.highlight members) =
        .ok (Node.highlight members') ∧
      (s.step (.fields names)).Shows members' fields' := by
  induction names generalizing s members fields with
  | nil =>
    have hstep : s.step (.fields []) = s := by
      simp [step, HighlightEvent.names, HighlightEvent.valueAt?]
    exact ⟨members, fields, rfl, by rwa [hstep]⟩
  | cons name rest ih =>
    obtain ⟨added, _, hadd, hadded, -⟩ := h.addField name
    obtain ⟨members', fields', hrest, hshows⟩ := ih hadded
    have hstep :
        (s.step (.fields [name])).step (.fields rest) = s.step (.fields (name :: rest)) := by
      simp [step, HighlightEvent.names, HighlightEvent.valueAt?]
    refine ⟨members', fields', ?_, hstep ▸ hshows⟩
    rw [List.foldlM_cons, hadd]
    exact hrest

/-! ### Writes -/

/-- A call is accepted: it answers the node and leaves no message. -/
def IsAccepted (o : Outcome Node) : Prop := o.answer = .ok .self ∧ o.notices = []

/-- The node of an outcome shows a store. -/
def ShownBy (s : Highlighting) (o : Outcome Node) : Prop :=
  ∃ members fields, o.state = Node.highlight members ∧ s.Shows members fields

/-- An option for all fields is shown beside them. -/
theorem Shows.writeShared (h : s.Shows members fields) {key : String} (hkey : key ≠ "fields")
    (value : Json) :
    (s.step (.option key none value)).Shows (Entries.set members key value) fields where
  listed := by
    rw [Entries.get?_set_of_ne members hkey]
    exact h.listed
  names := by
    rw [h.names]
    exact congrArg List.eraseDups (List.append_nil _).symm
  shared := by
    intro other hother
    rw [Entries.get?_set, h.shared other hother]
    by_cases hsame : key = other <;> simp [step, HighlightEvent.valueAt?, hsame]
  own := by
    intro name held hheld
    obtain ⟨options, rfl, hoptions⟩ := h.own name held hheld
    refine ⟨options, rfl, fun other => ?_⟩
    rw [hoptions]
    simp [step, HighlightEvent.valueAt?]
  unnamed := by
    intro name hname other
    have hunnamed : name ∉ s.named := fun hmem => hname (List.mem_append_left _ hmem)
    simp [step, HighlightEvent.valueAt?, h.unnamed name hunnamed]

/-- An option of a field that is there already. -/
theorem Shows.writeOwn {name : String} (h : (s.step (.fields [name])).Shows members fields)
    {options : Entries Json} (hname : Entries.get? fields name = some (.obj options))
    (key : String) (value : Json) :
    let fields' := Entries.set fields name (.obj (Entries.set options key value))
    (s.step (.option key (some name) value)).Shows
      (Entries.set members "fields" (.obj fields')) fields' := by
  intro fields'
  have hmem : name ∈ fields.map (·.1) := List.mem_map_of_mem (Entries.mem_of_get? hname)
  refine h.setFields ?_ (fun key' => ?_) (fun other held hheld => ?_) fun other hother key' => ?_
  · rw [Entries.keys_set, if_pos hmem]
    exact h.names
  · simp [step, HighlightEvent.valueAt?]
  · rw [Entries.get?_set] at hheld
    split at hheld
    · next hsame =>
      subst hsame
      obtain ⟨_, heq, hoptions⟩ := h.own name _ hname
      obtain rfl := Json.obj.inj heq
      refine ⟨_, (Option.some.inj hheld).symm, fun key' => ?_⟩
      rw [Entries.get?_set, hoptions]
      by_cases hkey : key = key' <;> simp [step, HighlightEvent.valueAt?, hkey]
    · next hother =>
      obtain ⟨options', rfl, hoptions⟩ := h.own other held hheld
      refine ⟨options', rfl, fun key' => ?_⟩
      rw [hoptions]
      simp [step, HighlightEvent.valueAt?, hother]
  · have hne : name ≠ other := by
      rintro rfl
      exact hother (List.mem_append_right _ List.mem_cons_self)
    have hunnamed := h.unnamed other hother key'
    simpa [step, HighlightEvent.valueAt?, hne] using hunnamed

/-- An accepted option is shown, for one field or for all. -/
theorem Shows.write (h : s.Shows members fields) {key : String} (hkey : key ≠ "fields")
    (field : Option String) (value : Json) :
    IsAccepted ((Node.highlight members).writeHighlight key field value) ∧
      (s.step (.option key field value)).ShownBy
        ((Node.highlight members).writeHighlight key field value) := by
  cases field with
  | none => exact ⟨⟨rfl, rfl⟩, _, fields, rfl, h.writeShared hkey value⟩
  | some name =>
    obtain ⟨added, fields', hadd, hadded, hbegun, options, hname⟩ := h.addField name
    have hwrite : (Node.highlight members).writeHighlight key (some name) value =
        .shifted (Node.highlight (Entries.set added "fields"
          (.obj (Entries.set fields' name (.obj (Entries.set options key value))))))
          [.taken (Node.highlightPath key (some name))] := by
      have hfields : (Node.highlight added).fragment.member "fields" = .obj fields' :=
        Json.member_of_get? hbegun
      dsimp only [Node.writeHighlight]
      rw [hadd]
      dsimp only
      rw [hfields, Json.member_of_get? hname]
      rfl
    rw [hwrite]
    exact ⟨⟨rfl, rfl⟩, _, _, rfl, hadded.writeOwn hname key value⟩

/-! ### Calls -/

/-- What a call does to the store and to the highlight that shows it. One that is not accepted may
begin the fields at most. -/
def Follows (o : Outcome Node) (s : Highlighting) : Option HighlightEvent → Prop
  | none => ¬ IsAccepted o ∧ s.ShownBy o
  | some event => IsAccepted o ∧ (s.step event).ShownBy o

theorem Shows.follows_of_state (h : s.Shows members fields) {o : Outcome Node}
    (hstate : o.state = Node.highlight members) (hanswer : ¬ IsAccepted o) : Follows o s none :=
  ⟨hanswer, members, fields, hstate, h⟩

theorem not_isAccepted_readPart (n : Node) (path : Path) : ¬ IsAccepted (n.readPart path) := by
  unfold IsAccepted Node.readPart
  cases n.fragment.part? path <;> exact fun h => by cases h.1

/-- The path of an option can be followed, as far as the highlight has it. -/
theorem Shows.opens (h : s.Shows members fields) (key : String) (field : Option String) :
    (Json.obj members).opens (Node.highlightPath key field) = true := by
  cases field with
  | none => exact Json.opens_one members key
  | some name =>
    refine Json.opens_cons fun value hvalue => ?_
    obtain hlisted | ⟨habsent, -⟩ := h.listed
    · cases hlisted.symm.trans hvalue
      refine Json.opens_cons fun inside hinside => ?_
      obtain ⟨options, rfl, -⟩ := h.own name inside hinside
      exact Json.opens_one options key
    · cases habsent.symm.trans hvalue

/-- An option is read as the part at its path. -/
theorem Shows.readThrough (h : s.Shows members fields) (key : String) (field : Option String) :
    (Node.highlight members).readThrough (Node.highlightPath key field) =
      (Node.highlight members).readPart (Node.highlightPath key field) := by
  have hopens : (Node.highlight members).fragment.opens (Node.highlightPath key field) = true :=
    h.opens key field
  rw [Node.readThrough, if_pos hopens]

/-- A call without a value reads the part at the path of the option. -/
theorem Shows.run_null (h : s.Shows members fields) (key : String) {form : HighlightForm}
    {args : Arguments} (hnull : (form.given args).isNull = true) :
    (form.operation key).run (Node.highlight members) args =
      (Node.highlight members).readPart (Node.highlightPath key (form.field? args)) := by
  rw [← h.readThrough]
  cases form with
  | sharedWord words =>
    have hread := h.readThrough key none
    simp only [HighlightForm.operation, Operation.choice, Operation.run, Accessor.run]
    exact (if_pos hnull).trans hread.symm
  | _ =>
    simp only [HighlightForm.operation, Operation.run, HighlightMethod.run]
    exact if_pos hnull

/-- An argument is stored or missed. -/
theorem run_given {n : Node} {key : String} {form : HighlightForm} {args : Arguments}
    (hgiven : ¬ (form.given args).isNull = true) :
    (form.operation key).run n args =
      ((form.stored? n (form.given args)).map (n.writeHighlight key (form.field? args))).getD
        (form.missed n key (form.given args)) := by
  cases form with
  | any => exact if_neg hgiven
  | word words | sharedWord words =>
    refine (if_neg hgiven).trans ?_
    dsimp only [HighlightForm.stored?, HighlightForm.given, HighlightForm.missed, Accessor.write]
    split
    · next htext =>
      rw [htext]
      rfl
    · next text htext =>
      rw [htext, Option.bind_some]
      by_cases hmem : lower text ∈ words
      · rw [if_pos hmem]
        exact if_pos (List.contains_iff_mem.2 hmem)
      · rw [if_neg hmem]
        exact if_neg fun h => hmem (List.contains_iff_mem.1 h)
  | texts =>
    refine (if_neg hgiven).trans ?_
    dsimp only [HighlightForm.stored?, HighlightForm.given, HighlightForm.missed]
    cases (args.first ["field"]).names? <;> rfl
  | object =>
    refine (if_neg hgiven).trans ?_
    dsimp only [HighlightForm.stored?, HighlightForm.given, HighlightForm.missed]
    cases args.first ["field"] with
    | plain value => cases value <;> rfl
    | _ => rfl

theorem missed_state (n : Node) (key : String) (v : Argument) (form : HighlightForm) :
    (form.missed n key v).state = n ∧ ¬ IsAccepted (form.missed n key v) := by
  have hrefused (cause : Misuse) : ¬ IsAccepted (Outcome.refused n cause) := fun h => by cases h.1
  cases form with
  | any | object => exact ⟨rfl, hrefused _⟩
  | texts => exact ⟨rfl, hrefused _⟩
  | word words | sharedWord words =>
    dsimp only [HighlightForm.missed]
    cases v.text? with
    | none => exact ⟨rfl, hrefused _⟩
    | some text => exact ⟨rfl, fun h => by cases h.2⟩

/-- A call that sets an option follows its event. -/
theorem Shows.call_option (h : s.Shows members fields) {entry : String × HighlightForm}
    (hentry : entry ∈ highlightForms) (args : Arguments) :
    Follows ((entry.2.operation entry.1).run (Node.highlight members) args) s
      ((Node.highlight members).highlightEvent? (entry.1, args)) := by
  have htable : ∀ entry ∈ highlightForms, entry.1 ≠ "fields" ∧
      Entries.get? highlightForms entry.1 = some entry.2 := by decide
  obtain ⟨hkey, hform⟩ := htable entry hentry
  simp only [Node.highlightEvent?, if_neg hkey, hform, Option.bind_some]
  by_cases hnull : (entry.2.given args).isNull = true
  · rw [if_pos hnull, h.run_null entry.1 hnull]
    exact h.follows_of_state (Node.readPart_state ..) (not_isAccepted_readPart _ _)
  · rw [if_neg hnull, run_given hnull]
    cases entry.2.stored? (Node.highlight members) (entry.2.given args) with
    | none =>
      obtain ⟨hstate, hanswer⟩ := missed_state (Node.highlight members) entry.1
        (entry.2.given args) entry.2
      exact h.follows_of_state hstate hanswer
    | some value => exact h.write hkey (entry.2.field? args) value

/-- A call that names fields follows its event, also if they are refused. -/
theorem Shows.call_fields (h : s.Shows members fields) (args : Arguments) :
    Follows (HighlightMethod.fields.run (Node.highlight members) args) s
      ((Node.highlight members).highlightEvent? ("fields", args)) := by
  simp only [Node.highlightEvent?, if_true, HighlightMethod.run]
  by_cases hnull : (args.first ["field"]).isNull = true
  · rw [if_pos hnull, if_pos hnull]
    exact h.follows_of_state (Node.readOption_state ..) (not_isAccepted_readPart _ _)
  · rw [if_neg hnull, if_neg hnull]
    obtain ⟨opened, hopen, hshows, -⟩ := h.openFields
    rw [hopen]
    dsimp only
    cases (args.first ["field"]).names? with
    | none =>
      -- The fields are begun before the argument is looked at.
      have hrefused : ¬ IsAccepted (.refused (Node.highlight opened) (.notNames "fields")) :=
        fun haccepted => by cases haccepted.1
      exact (⟨hrefused, opened, fields, rfl, hshows⟩ : Follows _ s none)
    | some names =>
      obtain ⟨members', fields', hadd, hadded⟩ := hshows.addFields names
      dsimp only
      rw [hadd]
      exact ⟨⟨rfl, rfl⟩, members', fields', rfl, hadded⟩

/-- What the methods of a highlight are. -/
theorem method_cases {method : String} {op : Operation}
    (hop : Entries.get? Kind.highlight.methods method = some op) :
    (op.isInspection = true ∧ method ∉ "fields" :: highlightForms.map (·.1)) ∨
      method = "fields" ∧ op = .highlight .fields ∨
      ∃ entry ∈ highlightForms, entry.1 = method ∧ op = entry.2.operation entry.1 := by
  have htable : ∀ entry ∈ Kind.highlight.methods,
      (entry.2.isInspection = true ∧ entry.1 ∉ "fields" :: highlightForms.map (·.1)) ∨
      entry.1 = "fields" ∧ entry.2 = .highlight .fields ∨
      ∃ option ∈ highlightForms, option.1 = entry.1 ∧
        entry.2 = option.2.operation option.1 := by decide
  exact htable _ (Entries.mem_of_get? hop)

theorem mem_methods_of_get?_none {method : String}
    (hop : Entries.get? Kind.highlight.methods method = none) :
    method ∉ "fields" :: highlightForms.map (·.1) := by
  have htable : ∀ method ∈ "fields" :: highlightForms.map (·.1),
      method ∈ Kind.highlight.methods.map (·.1) := by decide
  exact fun hmem => Entries.get?_eq_none_iff.1 hop (htable method hmem)

theorem highlightEvent?_of_notMem {n : Node} {call : String × Arguments}
    (h : call.1 ∉ "fields" :: highlightForms.map (·.1)) : n.highlightEvent? call = none := by
  rw [List.mem_cons, not_or] at h
  rw [Node.highlightEvent?, if_neg h.1, Entries.get?_eq_none_iff.2 h.2]
  rfl

theorem not_isAccepted_inspect (i : Inspection) (n : Node) : ¬ IsAccepted (i.run n) := by
  cases i with
  | fragment => exact not_isAccepted_readPart n []
  | _ => exact fun h => by cases h.1

/-- One call: the highlight shows the next store if the call is accepted, and else the same. -/
theorem Shows.call (h : s.Shows members fields) (call : String × Arguments) :
    Follows ((Node.highlight members).call call.1 call.2) s
      ((Node.highlight members).highlightEvent? call) := by
  obtain ⟨method, args⟩ := call
  unfold Node.call
  have hkind : (Node.highlight members).kind = .highlight := rfl
  rw [hkind]
  cases hop : Entries.get? Kind.highlight.methods method with
  | none =>
    rw [highlightEvent?_of_notMem (mem_methods_of_get?_none hop)]
    exact h.follows_of_state rfl fun haccepted => by cases haccepted.1
  | some op =>
    dsimp only
    rcases method_cases hop with ⟨hlook, hmethod⟩ | ⟨rfl, rfl⟩ | ⟨entry, hentry, rfl, rfl⟩
    · rw [highlightEvent?_of_notMem hmethod]
      cases op with
      | inspect i => exact h.follows_of_state (i.run_state _) (not_isAccepted_inspect i _)
      | _ => cases hlook
    · exact h.call_fields args
    · exact h.call_option hentry args

/-! ### Reads -/

/-- The part at the path of an option is what the events say of it. -/
theorem Shows.part?_option (h : s.Shows members fields) {key : String} (hkey : key ≠ "fields")
    (field : Option String) :
    (Json.obj members).part? (Node.highlightPath key field) = s.options key field := by
  cases field with
  | none =>
    rw [Node.highlightPath, Json.part?_cons, h.shared key hkey]
    exact Option.bind_fun_some _
  | some name =>
    rw [Node.highlightPath, Json.part?_cons]
    cases hname : Entries.get? fields name with
    | none =>
      rw [h.options_of_absent hname key]
      obtain hlisted | ⟨habsent, -⟩ := h.listed
      · rw [hlisted, Option.bind_some, Json.part?_cons, hname]
        rfl
      · rw [habsent]
        rfl
    | some value =>
      obtain ⟨options, rfl, hoptions⟩ := h.own name value hname
      obtain hlisted | ⟨-, rfl⟩ := h.listed
      · rw [hlisted, Option.bind_some, Json.part?_cons, hname, Option.bind_some, Json.part?_cons,
          hoptions]
        exact Option.bind_fun_some _
      · cases hname

theorem value?_readPart (n : Node) (path : Path) :
    (n.readPart path).answer.map Answer.value? =
      .ok (some ((n.fragment.part? path).getD .null)) := by
  unfold Node.readPart
  cases n.fragment.part? path <;> rfl

/-- A read of an option. -/
theorem Shows.read_option (h : s.Shows members fields) {entry : String × HighlightForm}
    (hentry : entry ∈ highlightForms) {args : Arguments}
    (hnull : (entry.2.given args).isNull = true) :
    ((Node.highlight members).call entry.1 args).state = Node.highlight members ∧
      ((Node.highlight members).call entry.1 args).answer.map Answer.value? =
        .ok (some ((s.options entry.1 (entry.2.field? args)).getD .null)) := by
  have htable : ∀ entry ∈ highlightForms, entry.1 ≠ "fields" ∧
      Entries.get? Kind.highlight.methods entry.1 = some (entry.2.operation entry.1) := by decide
  obtain ⟨hkey, hop⟩ := htable entry hentry
  have hcall : (Node.highlight members).call entry.1 args =
      (Node.highlight members).readPart (Node.highlightPath entry.1 (entry.2.field? args)) := by
    unfold Node.call
    rw [show Entries.get? (Node.highlight members).kind.methods entry.1 = _ from hop]
    exact h.run_null entry.1 hnull
  rw [hcall, value?_readPart]
  refine ⟨Node.readPart_state .., ?_⟩
  have hpart : (Node.highlight members).fragment.part? _ = _ :=
    h.part?_option hkey (entry.2.field? args)
  rw [hpart]

/-- A read of the fields. -/
theorem Shows.read_fields (h : s.Shows members fields) {args : Arguments}
    (hnull : (args.first ["field"]).isNull = true) :
    ((Node.highlight members).call "fields" args).state = Node.highlight members ∧
      ∃ value, ((Node.highlight members).call "fields" args).answer.map Answer.value? =
          .ok (some value) ∧
        (value = .null ∧ s.named.eraseDups = [] ∨
          ∃ entries, value = .obj entries ∧ entries.map (·.1) = s.named.eraseDups) := by
  have hcall : (Node.highlight members).call "fields" args =
      (Node.highlight members).readPart ["fields"] := if_pos hnull
  rw [hcall, value?_readPart]
  refine ⟨Node.readPart_state .., _, rfl, ?_⟩
  have hpart : (Node.highlight members).fragment.part? ["fields"] =
      Entries.get? members "fields" :=
    (Json.part?_cons members "fields" []).trans (Option.bind_fun_some _)
  rw [hpart, ← h.names]
  obtain hlisted | ⟨habsent, rfl⟩ := h.listed
  · rw [hlisted]
    exact .inr ⟨fields, rfl, rfl⟩
  · rw [habsent]
    exact .inl ⟨rfl, rfl⟩

/-! ### Runs -/

/-- A run: what is shown in the end is the store after the calls that were accepted. -/
theorem Shows.after (h : s.Shows members fields) (calls : List (String × Arguments)) :
    ∃ members' fields', (Node.highlight members).after calls = Node.highlight members' ∧
      (s.after ((Node.highlight members).highlightEvents calls)).Shows members' fields' := by
  induction calls generalizing s members fields with
  | nil => exact ⟨members, fields, rfl, h⟩
  | cons call rest ih =>
    have hcall := h.call call
    rw [Node.highlightEvents, Node.after_cons]
    cases hevent : (Node.highlight members).highlightEvent? call with
    | none =>
      rw [hevent] at hcall
      obtain ⟨-, next, fields', hstate, hnext⟩ := hcall
      rw [hstate]
      exact ih hnext
    | some event =>
      rw [hevent] at hcall
      obtain ⟨-, next, fields', hstate, hnext⟩ := hcall
      rw [hstate]
      exact ih hnext

end Highlighting

namespace Node

/-- What the construction of a highlight does: it names the first fields. -/
def highlightStart (args : Arguments) : Option HighlightEvent :=
  (highlight []).highlightEvent? ("fields", .one args.first)

/-- An option is read as the last value that was accepted for it at that very level, for all fields
or for one, and as null before; the fields are the names that were accepted, each once, in the
order in which they were first given. Reads change nothing, and what a call does is told by its
arguments: it is accepted just if it does something. -/
theorem highlight_stores (args : Arguments) (calls : List (String × Arguments)) :
    let start := (Kind.highlight.build args).state
    let n := start.after calls
    let events := (highlightStart args).toList ++ start.highlightEvents calls
    let named := (events.flatMap HighlightEvent.names).eraseDups
    (∀ entry ∈ highlightForms, ∀ args, (entry.2.given args).isNull = true →
        (n.call entry.1 args).state = n ∧
          (n.call entry.1 args).answer.map Answer.value? = .ok (some
            ((HighlightEvent.lastValue? events entry.1 (entry.2.field? args)).getD .null))) ∧
      (∀ args, (args.first ["field"]).isNull = true →
        (n.call "fields" args).state = n ∧
          ∃ value, (n.call "fields" args).answer.map Answer.value? = .ok (some value) ∧
            (value = .null ∧ named = [] ∨
              ∃ fields, value = .obj fields ∧ fields.map (·.1) = named)) ∧
      ∀ call, (n.highlightEvent? call).isSome = true ↔
        (n.call call.1 call.2).answer = .ok .self ∧ (n.call call.1 call.2).notices = [] := by
  intro start n events named
  have hbuild : Highlighting.Follows (Kind.highlight.build args) {} (highlightStart args) :=
    Highlighting.Shows.start.call_fields (.one args.first)
  obtain ⟨first, _, hstart, hfirst⟩ :
      (({} : Highlighting).after (highlightStart args).toList).ShownBy
        (Kind.highlight.build args) := by
    cases hevent : highlightStart args <;> exact (hevent ▸ hbuild).2
  obtain ⟨members, fields, hn, hshows⟩ := hfirst.after calls
  rw [← hstart] at hn hshows
  change n = highlight members at hn
  have hevents : (({} : Highlighting).after (highlightStart args).toList).after
      (start.highlightEvents calls) = ({} : Highlighting).after events :=
    (List.foldl_append ..).symm
  rw [hevents] at hshows
  have hnamed : (({} : Highlighting).after events).named = events.flatMap HighlightEvent.names :=
    Highlighting.named_after {} events
  rw [hn]
  refine ⟨fun entry hentry args hnull => ?_, fun args hnull => ?_, fun call => ?_⟩
  · have hread := hshows.read_option hentry hnull
    rwa [Highlighting.options_after, Option.or_none] at hread
  · have hread := hshows.read_fields hnull
    rwa [hnamed] at hread
  · have hcall := hshows.call call
    cases hevent : (highlight members).highlightEvent? call with
    | none =>
      rw [hevent] at hcall
      exact iff_of_false Bool.false_ne_true hcall.1
    | some event =>
      rw [hevent] at hcall
      exact iff_of_true rfl hcall.1

/-- Options for all fields and for single ones, words that are not known, fields that are named
again and arguments that are refused. -/
theorem highlight_stores_mixed :
    let given (value field : Json) : Arguments := { positional := [.plain value, .plain field] }
    let calls : List (String × Arguments) :=
      [("pre_tags", .one (.plain (.str "b"))), ("pre_tags", given (.str "i") (.str "body")),
        ("order", given (.str "best") (.str "title")), ("tags_schema", .one (.plain (.int 5))),
        ("fragment_size", given (.int 150) (.str "title")), ("order", .one (.plain (.str "SCORE"))),
        ("fields", .one (.plain (.arr [.str "title", .str "body"]))),
        ("fields", .one (.plain (.int 5))), ("pre_tags", given (.int 5) (.str "author"))]
    let n := (Kind.highlight.build (.one (.plain (.str "body")))).state.after calls
    let read (key : String) (field : Json) :=
      (n.call key (given .null field)).answer.map Answer.value?
    read "pre_tags" .null = .ok (some (.arr [.str "b"])) ∧
      read "pre_tags" (.str "body") = .ok (some (.arr [.str "i"])) ∧
      read "order" .null = .ok (some (.str "score")) ∧
      read "order" (.str "title") = .ok (some .null) ∧
      ∃ fields, read "fields" .null = .ok (some (.obj fields)) ∧
        fields.map (·.1) = ["body", "title"] := by
  intro given calls n read
  obtain ⟨hoptions, hfields, -⟩ := highlight_stores (.one (.plain (.str "body"))) calls
  have htags : ("pre_tags", HighlightForm.texts) ∈ highlightForms := by decide
  have horder : ("order", HighlightForm.word ["score"]) ∈ highlightForms := by decide
  refine ⟨(hoptions _ htags (given .null .null) rfl).2,
    (hoptions _ htags (given .null (.str "body")) rfl).2,
    (hoptions _ horder (given .null .null) rfl).2,
    (hoptions _ horder (given .null (.str "title")) rfl).2, ?_⟩
  obtain ⟨-, value, hvalue, ⟨-, hnone⟩ | ⟨fields, rfl, hkeys⟩⟩ :=
    hfields (given .null .null) rfl
  · cases hnone
  · exact ⟨fields, hvalue, hkeys⟩

end Node

end SearchBuilder
