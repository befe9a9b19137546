import SearchBuilder.Proofs.Document.Interference

/-!
# What a sort clause sorts by

A sort clause is a machine with three modes: it sorts by its field, by the distance from a point or
by a script. `Clause` is its state as its users see it, and `Clause.step` says what the calls that
are accepted do to that state: a switch of the mode starts the options anew, except that a script
follows another one with the options in place, and a rename changes the name of the field only.

Along every run of calls the fragment shows this state and nothing else
(`Node.clause_shows`): one key, which the mode decides, and under it the options with the point or
the script.
-/

namespace SearchBuilder

/-! ## The machine -/

/-- What a sort clause sorts by. -/
inductive ClauseMode where
  | field
  | distance (point : Json)
  | script (code : Json)

/-- The state of a sort clause. -/
structure Clause where
  field : String
  mode : ClauseMode := .field
  options : String → Option Json := fun _ => none

/-- What a call that is accepted does to a sort clause. -/
inductive ClauseEvent where
  | rename (name : String)
  | distance (point : Json)
  | script (code : Json)
  | option (key : String) (value : Json)

/-- The mode to which an event switches. -/
def ClauseEvent.mode? : ClauseEvent → Option ClauseMode
  | .distance point => some (.distance point)
  | .script code => some (.script code)
  | _ => none

namespace Clause

/-- The options that take one of a few words, in small letters. -/
def wordOptions : List (String × List String) :=
  [("order", ["asc", "desc"]), ("mode", Words.sortModes), ("unit", Words.distanceUnits),
    ("distance_type", Words.distanceTypes), ("type", Words.scriptTypes)]

/-- The options that take any value. -/
def plainOptions : List String :=
  ["reverse", "missing", "ignore_unmapped", "nested_path", "normalize", "lang", "params"]

/-- The keys of the options. -/
def optionKeys : List String := wordOptions.map (·.1) ++ "nested_filter" :: plainOptions

/-- A name that is free for fields: neither that of an option nor one of the keys that stand for
other modes. -/
def IsFree (name : String) : Prop := name ∉ distanceKey :: scriptKey :: optionKeys

/-- The state after a call that is accepted. -/
def step (c : Clause) : ClauseEvent → Clause
  | .rename name => { c with field := name }
  | .distance point => { c with mode := .distance point, options := fun _ => none }
  | .script code =>
    match c.mode with
    | .script _ => { c with mode := .script code }
    | _ => { c with mode := .script code, options := fun _ => none }
  | .option key value =>
    { c with options := fun other => if key = other then some value else c.options other }

/-- The state after calls that are accepted in turn. -/
def after (c : Clause) (events : List ClauseEvent) : Clause := events.foldl step c

/-- The key under which the clause stands. -/
def key (c : Clause) : String :=
  match c.mode with
  | .field => c.field
  | .distance _ => distanceKey
  | .script _ => scriptKey

/-- The point from which distances are measured. -/
def point? (c : Clause) : Option Json :=
  match c.mode with
  | .distance point => some point
  | _ => none

/-- The script that is sorted by. -/
def code? (c : Clause) : Option Json :=
  match c.mode with
  | .script code => some code
  | _ => none

/-- What stands under a key of the body: the point under the field's name, the script under its
own, and the options. -/
def inside (c : Clause) (key : String) : Option Json :=
  match c.mode with
  | .field => c.options key
  | .distance point => if key = c.field then some point else c.options key
  | .script code => if key = "script" then some code else c.options key

end Clause

namespace Node

/-- What a call does to a sort clause, if it is accepted: nothing when it reads, when its argument
is of a wrong kind and when it is a word that the option does not know. -/
def clauseEvent? (n : Node) (call : String × Arguments) : Option ClauseEvent :=
  let v := call.2.first
  if call.1 = "asc" ∨ call.1 = "desc" then some (.option "order" (.str call.1))
  else if v.isNull then none
  else if call.1 = "field" then some (.rename v.name)
  else if call.1 = "script" then some (.script (v.toJson n))
  else if call.1 = "geo_distance" then
    if v.satisfies n (.category .geoPoint) then some (.distance (v.snapshot n)) else none
  else if call.1 = "nested_filter" then
    if v.satisfies n (.category .filter) then some (.option call.1 (v.snapshot n)) else none
  else if call.1 ∈ Clause.plainOptions then some (.option call.1 (v.toJson n))
  else do
    let words ← Entries.get? Clause.wordOptions call.1
    let word ← v.text?
    if lower word ∈ words then some (.option call.1 (.str (lower word))) else none

/-- What the calls of a run do to a sort clause, in turn. -/
def clauseEvents (n : Node) : List (String × Arguments) → List ClauseEvent
  | [] => []
  | call :: rest => (n.clauseEvent? call).toList ++ (n.call call.1 call.2).state.clauseEvents rest

end Node

/-! ## The fragment shows the state -/

/-- The sort clause with a body. -/
def Clause.node (c : Clause) (body : Entries Json) : Node where
  kind := .sort
  fragment := .obj [(c.key, .obj body)]
  slot := c.key
  inner := c.field

/-- A body that holds what a state has to show. -/
structure Clause.Shows (c : Clause) (body : Entries Json) : Prop where
  content : ∀ key, Entries.get? body key = c.inside key
  nodup : (body.map (·.1)).Nodup
  free : Clause.IsFree c.field
  options : ∀ key, c.options key ≠ none → key ∈ Clause.optionKeys

namespace Clause

variable {c : Clause} {body : Entries Json}

/-! ### What the machine says of fields and options -/

theorem IsFree.notMem_optionKeys {name : String} (h : IsFree name) : name ∉ optionKeys :=
  fun hmem => h (List.mem_cons_of_mem _ (List.mem_cons_of_mem _ hmem))

theorem IsFree.ne_distanceKey {name : String} (h : IsFree name) : name ≠ distanceKey := by
  rintro rfl
  exact h List.mem_cons_self

theorem IsFree.ne_scriptKey {name : String} (h : IsFree name) : name ≠ scriptKey := by
  rintro rfl
  exact h (List.mem_cons_of_mem _ List.mem_cons_self)

theorem ne_script {key : String} (h : key ∈ optionKeys) : key ≠ "script" := by
  rintro rfl
  revert h
  decide

theorem Shows.start {name : String} (h : IsFree name) : Shows { field := name } [] where
  content := fun _ => rfl
  nodup := List.nodup_nil
  free := h
  options := fun _ hkey => absurd rfl hkey

/-- No option stands under the field's name. -/
theorem Shows.options_free (h : c.Shows body) {name : String} (hname : IsFree name) :
    c.options name = none :=
  Decidable.byContradiction fun hpresent => hname.notMem_optionKeys (h.options name hpresent)

theorem Shows.option (h : c.Shows body) {key : String} (hkey : key ∈ optionKeys) (value : Json) :
    (c.step (.option key value)).Shows (Entries.set body key value) where
  content := by
    intro other
    rw [Entries.get?_set, h.content]
    have hfield : key ≠ c.field := fun heq => h.free.notMem_optionKeys (heq ▸ hkey)
    have hscript := ne_script hkey
    unfold inside
    by_cases hsame : key = other
    · subst hsame
      cases hmode : c.mode <;> simp [step, hmode, hfield, hscript]
    · cases hmode : c.mode <;> simp [step, hmode, hsame]
  nodup := Entries.nodup_set h.nodup key value
  free := h.free
  options := by
    intro other hother
    by_cases hsame : key = other
    · exact hsame ▸ hkey
    · refine h.options other ?_
      simpa [step, hsame] using hother

/-- A clause that is made to sort by distance shows the point under its field. -/
theorem Shows.distance (h : c.Shows body) (point : Json) :
    (c.step (.distance point)).Shows [(c.field, point)] where
  content := by
    intro key
    change (if c.field = key then some point else none) = if key = c.field then some point else none
    by_cases hsame : c.field = key
    · rw [if_pos hsame, if_pos hsame.symm]
    · rw [if_neg hsame, if_neg (Ne.symm hsame)]
  nodup := by simp
  free := h.free
  options := fun _ hkey => absurd rfl hkey

/-- A script in the place of another one. -/
theorem Shows.script_again (h : c.Shows body) {old : Json} (hmode : c.mode = .script old)
    (code : Json) : (c.step (.script code)).Shows (Entries.set body "script" code) := by
  have hstep : c.step (.script code) = { c with mode := .script code } := by
    rw [step, hmode]
  rw [hstep]
  refine ⟨fun key => ?_, Entries.nodup_set h.nodup "script" code, h.free, h.options⟩
  rw [Entries.get?_set, h.content]
  simp only [inside, hmode, eq_comm (a := "script")]
  split <;> rfl

/-- A clause that is made to sort by a script shows it alone. -/
theorem Shows.script_anew (h : c.Shows body) (hmode : ∀ old, c.mode ≠ .script old)
    (code : Json) : (c.step (.script code)).Shows [("script", code)] := by
  have hstep : c.step (.script code) =
      { c with mode := .script code, options := fun _ => none } := by
    unfold step
    cases hc : c.mode with
    | script old => exact absurd hc (hmode old)
    | _ => rfl
  rw [hstep]
  refine ⟨fun key => ?_, by simp, h.free, fun _ hkey => absurd rfl hkey⟩
  simp [inside, Entries.get?, eq_comm]

/-- A new name of the field takes the point along. -/
theorem Shows.rename (h : c.Shows body) {name : String} (hname : IsFree name) :
    (c.step (.rename name)).Shows
      (match c.mode with
        | .distance _ => Entries.rekey body c.field name .empty
        | _ => body) := by
  cases hmode : c.mode with
  | distance point =>
    refine ⟨fun key => ?_, Entries.nodup_rekey h.nodup .., hname, h.options⟩
    have hpoint : Entries.get? body c.field = some point := by
      rw [h.content, inside, hmode]
      exact if_pos rfl
    by_cases hsame : c.field = name
    · rw [Entries.rekey, if_pos hsame, h.content]
      simp [inside, step, hmode, hsame]
    · rw [Entries.get?_rekey hsame, hpoint, h.content]
      by_cases hold : c.field = key
      · subst hold
        simp [inside, step, hmode, hsame, Ne.symm hsame, h.options_free h.free]
      · simp [inside, step, hmode, hold, Ne.symm hold, eq_comm]
  | field | script code =>
    refine ⟨fun key => ?_, h.nodup, hname, h.options⟩
    rw [h.content, inside, inside, step, hmode]

/-! ### Calls -/

theorem writeOption_node (c : Clause) (body : Entries Json) (key : String) (value : Json) :
    (c.node body).writeOption .body key value =
      .shifted (c.node (Entries.set body key value)) [.taken [c.key, key]] :=
  Node.writeOption_envelope (n := c.node body) rfl key value

/-- The clause goes from one state to the next and answers itself. -/
def Moves (o : Outcome Node) (c : Clause) : Prop :=
  o.answer = .ok .self ∧ ∃ body, o.state = c.node body ∧ c.Shows body

/-- Setting an option of a clause moves it by one step. -/
theorem Shows.write (h : c.Shows body) {key : String} (hkey : key ∈ optionKeys) (value : Json) :
    Moves ((c.node body).writeOption .body key value) (c.step (.option key value)) := by
  rw [writeOption_node]
  exact ⟨rfl, _, rfl, h.option hkey value⟩

theorem Shows.switchDistance (h : c.Shows body) (point : Json) :
    Moves ((c.node body).switchClause distanceKey [(c.field, point)]) (c.step (.distance point)) :=
  ⟨rfl, _, rfl, h.distance point⟩

/-- Giving a clause a script moves it by one step. -/
theorem Shows.runScript (h : c.Shows body) {args : Arguments} (hgiven : args.first.isNull = false) :
    Moves (SortMethod.script.run (c.node body) args)
      (c.step (.script (args.first.toJson (c.node body)))) := by
  simp only [SortMethod.run, hgiven, Bool.false_eq_true, if_false]
  have hslot : (c.node body).slot = c.key := rfl
  cases hmode : c.mode with
  | script old =>
    have hkey : c.key = scriptKey := by rw [key, hmode]
    rw [if_pos (hslot.trans hkey), writeOption_node]
    refine ⟨rfl, _, ?_, h.script_again hmode _⟩
    simp only [Outcome.shifted, node, key, step, hmode]
  | field =>
    have hkey : c.key = c.field := by rw [key, hmode]
    rw [if_neg fun heq => h.free.ne_scriptKey (hkey.symm.trans (hslot.symm.trans heq))]
    refine ⟨rfl, _, ?_, h.script_anew (fun old => by rw [hmode]; exact ClauseMode.noConfusion) _⟩
    simp only [Node.switchClause, Outcome.shifted, node, key, step, hmode]
  | distance point =>
    have hkey : c.key = distanceKey := by rw [key, hmode]
    rw [if_neg fun heq => absurd (hkey.symm.trans (hslot.symm.trans heq)) (by decide)]
    refine ⟨rfl, _, ?_, h.script_anew (fun old => by rw [hmode]; exact ClauseMode.noConfusion) _⟩
    simp only [Node.switchClause, Outcome.shifted, node, key, step, hmode]

/-- Renaming a clause moves it by one step, whatever it sorts by. -/
theorem Shows.renameClause (h : c.Shows body) {name : String} (hname : IsFree name) :
    Moves ((c.node body).renameClause name) (c.step (.rename name)) := by
  have hslot : (c.node body).slot = c.key := rfl
  have hshows := h.rename hname
  unfold Node.renameClause
  cases hmode : c.mode with
  | field =>
    have hkey : c.key = c.field := by rw [key, hmode]
    rw [if_neg fun heq => h.free.ne_distanceKey (hkey.symm.trans (hslot.symm.trans heq)),
      if_neg fun heq => h.free.ne_scriptKey (hkey.symm.trans (hslot.symm.trans heq))]
    rw [hmode] at hshows
    have hmoved := Entries.rekey_one c.key name (Json.obj body) .empty
    refine ⟨rfl, body, ?_, hshows⟩
    simp only [node, Json.members?, Outcome.shifted, hmoved, step, hmode]
    rfl
  | distance point =>
    have hkey : c.key = distanceKey := by rw [key, hmode]
    rw [if_pos (hslot.trans hkey)]
    rw [hmode] at hshows
    rw [Node.renameInner_envelope (n := c.node body) rfl]
    refine ⟨rfl, _, ?_, hshows⟩
    simp only [Outcome.shifted, node, key, step, hmode]
  | script code =>
    have hkey : c.key = scriptKey := by rw [key, hmode]
    rw [if_neg fun heq => absurd (hkey.symm.trans (hslot.symm.trans heq)) (by decide),
      if_pos (hslot.trans hkey)]
    rw [hmode] at hshows
    refine ⟨rfl, body, ?_, hshows⟩
    simp only [Outcome.chained, node, key, step, hmode]

/-! ### One call -/

/-- The methods that may change a sort clause. -/
def methods : List String := ["asc", "desc", "field", "script", "geo_distance"] ++ optionKeys

theorem clauseEvent?_of_notMem {n : Node} {call : String × Arguments} (h : call.1 ∉ methods) :
    n.clauseEvent? call = none := by
  have hwords : Entries.get? wordOptions call.1 = none := by
    refine Entries.get?_eq_none_iff.2 fun hmem => h ?_
    exact List.mem_append_right _ (List.mem_append_left _ hmem)
  simp only [methods, optionKeys, List.mem_append, List.mem_cons, not_or] at h
  simp [Node.clauseEvent?, h, hwords]

/-- What the methods of a sort clause are. -/
theorem method_cases {method : String} {op : Operation}
    (hop : Entries.get? Kind.sort.methods method = some op) :
    (op.isInspection = true ∧ method ∉ methods) ∨
      (method = "asc" ∨ method = "desc") ∧ op = .sort (.direction method) ∨
      method = "field" ∧ op = .sort .field ∨ method = "script" ∧ op = .sort .script ∨
      method = "geo_distance" ∧ op = .sort .geoDistance ∨
      method = "nested_filter" ∧ op = .child .body method .filter ∨
      method ∈ plainOptions ∧ op = .option .body method ∨
      ∃ entry ∈ wordOptions, entry.1 = method ∧ op = .choice .body method entry.2 := by
  have htable : ∀ entry ∈ Kind.sort.methods,
      (entry.2.isInspection = true ∧ entry.1 ∉ methods) ∨
      (entry.1 = "asc" ∨ entry.1 = "desc") ∧ entry.2 = .sort (.direction entry.1) ∨
      entry.1 = "field" ∧ entry.2 = .sort .field ∨ entry.1 = "script" ∧ entry.2 = .sort .script ∨
      entry.1 = "geo_distance" ∧ entry.2 = .sort .geoDistance ∨
      entry.1 = "nested_filter" ∧ entry.2 = .child .body entry.1 .filter ∨
      entry.1 ∈ plainOptions ∧ entry.2 = .option .body entry.1 ∨
      ∃ pair ∈ wordOptions, pair.1 = entry.1 ∧ entry.2 = .choice .body entry.1 pair.2 := by decide
  exact htable _ (Entries.mem_of_get? hop)

theorem mem_methods_of_get?_none {method : String}
    (hop : Entries.get? Kind.sort.methods method = none) : method ∉ methods := by
  have htable : ∀ method ∈ methods, method ∈ Kind.sort.methods.map (·.1) := by decide
  exact fun hmem => Entries.get?_eq_none_iff.1 hop (htable method hmem)

/-- What a call does to the state and to the node that shows it. -/
def Follows (o : Outcome Node) (n : Node) (c : Clause) : Option ClauseEvent → Prop
  | none => o.state = n
  | some event => Moves o (c.step event)

theorem clauseEvent?_of_null {n : Node} {method : String} {args : Arguments}
    (hmethod : ¬ (method = "asc" ∨ method = "desc")) (hnull : args.first.isNull = true) :
    n.clauseEvent? (method, args) = none := by
  simp only [Node.clauseEvent?, if_neg hmethod, if_pos hnull]

/-- A call that names the field of a clause follows its event. -/
theorem Shows.call_field (h : c.Shows body) {args : Arguments}
    (hname : args.first.isNull = false → IsFree args.first.name) :
    Follows (SortMethod.field.run (c.node body) args) (c.node body) c
      ((c.node body).clauseEvent? ("field", args)) := by
  cases hfirst : args.first.isNull with
  | true =>
    rw [clauseEvent?_of_null (by decide) hfirst]
    simp only [Follows, SortMethod.run, hfirst, if_true]
    rfl
  | false =>
    have hevent : (c.node body).clauseEvent? ("field", args) = some (.rename args.first.name) := by
      simp [Node.clauseEvent?, hfirst]
    rw [hevent]
    simp only [SortMethod.run, hfirst, Bool.false_eq_true, if_false]
    exact h.renameClause (hname hfirst)

theorem Shows.call_script (h : c.Shows body) (args : Arguments) :
    Follows (SortMethod.script.run (c.node body) args) (c.node body) c
      ((c.node body).clauseEvent? ("script", args)) := by
  cases hfirst : args.first.isNull with
  | true =>
    rw [clauseEvent?_of_null (by decide) hfirst]
    simp only [Follows, SortMethod.run, hfirst, if_true]
    exact Node.readThrough_state ..
  | false =>
    have hevent : (c.node body).clauseEvent? ("script", args) =
        some (.script (args.first.toJson (c.node body))) := by
      simp [Node.clauseEvent?, hfirst]
    rw [hevent]
    exact h.runScript hfirst

theorem Shows.call_distance (h : c.Shows body) (args : Arguments) :
    Follows (SortMethod.geoDistance.run (c.node body) args) (c.node body) c
      ((c.node body).clauseEvent? ("geo_distance", args)) := by
  cases hfirst : args.first.isNull with
  | true =>
    rw [clauseEvent?_of_null (by decide) hfirst]
    simp only [Follows, SortMethod.run, hfirst, if_true]
    exact Node.readThrough_state ..
  | false =>
    have hevent : (c.node body).clauseEvent? ("geo_distance", args) =
        if args.first.satisfies (c.node body) (.category .geoPoint) then
          some (.distance (args.first.snapshot (c.node body))) else none := by
      simp [Node.clauseEvent?, hfirst]
    rw [hevent]
    simp only [SortMethod.run, hfirst, Bool.false_eq_true, if_false]
    split
    · exact h.switchDistance _
    · rfl

/-- An accessor of an option: a read changes nothing, and what a write stores is an option. -/
theorem call_accessor {a : Accessor} {method : String} {args : Arguments}
    (hmethod : ¬ (method = "asc" ∨ method = "desc"))
    (hread : a.read (c.node body) = (c.node body).readOption a.place a.key)
    (hwrite : args.first.isNull = false →
      Follows (a.write (c.node body) args.first) (c.node body) c
        ((c.node body).clauseEvent? (method, args))) :
    Follows (a.run (c.node body) args.first) (c.node body) c
      ((c.node body).clauseEvent? (method, args)) := by
  unfold Accessor.run
  cases hfirst : args.first.isNull with
  | true =>
    rw [clauseEvent?_of_null hmethod hfirst, if_pos rfl, hread]
    exact Node.readOption_state ..
  | false => exact hwrite hfirst

theorem Shows.call_nestedFilter (h : c.Shows body) (args : Arguments) :
    Follows ((Operation.child .body "nested_filter" .filter).run (c.node body) args) (c.node body) c
      ((c.node body).clauseEvent? ("nested_filter", args)) := by
  refine call_accessor (by decide) rfl fun hgiven => ?_
  have hevent : (c.node body).clauseEvent? ("nested_filter", args) =
      if args.first.satisfies (c.node body) (.category .filter) then
        some (.option "nested_filter" (args.first.snapshot (c.node body))) else none := by
    simp [Node.clauseEvent?, hgiven]
  rw [hevent]
  simp only [Accessor.write]
  split
  · exact h.write (by decide) _
  · rfl

/-- A call that gives a clause an option of any value follows its event. -/
theorem Shows.call_plain (h : c.Shows body) {method : String} (hmethod : method ∈ plainOptions)
    (args : Arguments) : Follows ((Operation.option .body method).run (c.node body) args)
      (c.node body) c ((c.node body).clauseEvent? (method, args)) := by
  have hother : ∀ method ∈ plainOptions, ¬ (method = "asc" ∨ method = "desc") ∧
      method ≠ "field" ∧ method ≠ "script" ∧ method ≠ "geo_distance" ∧ method ≠ "nested_filter" ∧
      method ∈ optionKeys := by decide
  obtain ⟨horder, hfield, hscript, hdistance, hfilter, hkey⟩ := hother method hmethod
  refine call_accessor horder rfl fun hgiven => ?_
  have hevent : (c.node body).clauseEvent? (method, args) =
      some (.option method (args.first.toJson (c.node body))) := by
    simp only [Node.clauseEvent?, if_neg horder, hgiven, Bool.false_eq_true, if_false,
      if_neg hfield, if_neg hscript, if_neg hdistance, if_neg hfilter, if_pos hmethod]
  rw [hevent]
  exact h.write hkey _

/-- A call that gives a clause one of a few words follows its event. -/
theorem Shows.call_word (h : c.Shows body) {entry : String × List String}
    (hentry : entry ∈ wordOptions) (args : Arguments) :
    Follows ((Operation.choice .body entry.1 entry.2).run (c.node body) args) (c.node body) c
      ((c.node body).clauseEvent? (entry.1, args)) := by
  have hother : ∀ entry ∈ wordOptions, ¬ (entry.1 = "asc" ∨ entry.1 = "desc") ∧
      entry.1 ≠ "field" ∧ entry.1 ≠ "script" ∧ entry.1 ≠ "geo_distance" ∧
      entry.1 ≠ "nested_filter" ∧ entry.1 ∉ plainOptions ∧ entry.1 ∈ optionKeys ∧
      Entries.get? wordOptions entry.1 = some entry.2 := by decide
  obtain ⟨horder, hfield, hscript, hdistance, hfilter, hplain, hkey, hwords⟩ := hother entry hentry
  refine call_accessor horder rfl fun hgiven => ?_
  have hevent : (c.node body).clauseEvent? (entry.1, args) = (args.first.text?).bind fun word =>
      if lower word ∈ entry.2 then some (.option entry.1 (.str (lower word))) else none := by
    simp only [Node.clauseEvent?, if_neg horder, hgiven, Bool.false_eq_true, if_false,
      if_neg hfield, if_neg hscript, if_neg hdistance, if_neg hfilter, if_neg hplain, hwords]
    rfl
  rw [hevent]
  simp only [Accessor.write]
  cases args.first.text? with
  | none => rfl
  | some word =>
    change Follows (if entry.2.contains (lower word) then _ else _) _ _ (if _ then _ else _)
    by_cases hword : lower word ∈ entry.2
    · rw [if_pos hword, if_pos (List.contains_iff_mem.2 hword)]
      exact h.write hkey _
    · rw [if_neg hword, if_neg fun hmem => hword (List.contains_iff_mem.1 hmem)]
      rfl

/-- One call: the node shows the next state if the call is accepted, and else it stays as it is. -/
theorem Shows.call (h : c.Shows body) {call : String × Arguments}
    (hname : isRename call = true → IsFree call.2.first.name) :
    Follows ((c.node body).call call.1 call.2) (c.node body) c
      ((c.node body).clauseEvent? call) := by
  obtain ⟨method, args⟩ := call
  unfold Node.call
  have hkind : (c.node body).kind = .sort := rfl
  rw [hkind]
  cases hop : Entries.get? Kind.sort.methods method with
  | none =>
    rw [clauseEvent?_of_notMem (mem_methods_of_get?_none hop)]
    rfl
  | some op =>
    dsimp only
    rcases method_cases hop with ⟨hlook, hmethod⟩ | ⟨hmethod, rfl⟩ | ⟨rfl, rfl⟩ | ⟨rfl, rfl⟩ |
      ⟨rfl, rfl⟩ | ⟨rfl, rfl⟩ | ⟨hmethod, rfl⟩ | ⟨entry, hentry, rfl, rfl⟩
    · rw [clauseEvent?_of_notMem hmethod]
      cases op with
      | inspect i => exact i.run_state _
      | _ => cases hlook
    · have hevent : (c.node body).clauseEvent? (method, args) =
          some (.option "order" (.str method)) := if_pos hmethod
      rw [hevent]
      exact h.write (by decide) _
    · exact h.call_field fun hgiven => hname (by simp [isRename, hgiven])
    · exact h.call_script args
    · exact h.call_distance args
    · exact h.call_nestedFilter args
    · exact h.call_plain hmethod args
    · exact h.call_word hentry args

/-! ### Reads -/

theorem readThrough_node (c : Clause) (body : Entries Json) (outer inner : String) :
    ((c.node body).readThrough [outer, inner]).answer.map Answer.value? =
      .ok (some (if c.key = outer then (Entries.get? body inner).getD .null else .null)) := by
  unfold Node.readThrough Node.readPart
  have hfragment : (c.node body).fragment = .obj [(c.key, .obj body)] := rfl
  rw [hfragment]
  by_cases hkey : c.key = outer
  · cases hinner : Entries.get? body inner <;>
      simp [Json.opens, Json.part?, Entries.get?, hkey, hinner] <;> rfl
  · simp [Json.opens, Json.part?, Entries.get?, hkey]
    rfl

/-- The point of a clause is read back as it was last given. -/
theorem Shows.read_distance (h : c.Shows body) :
    (c.node body).read "geo_distance" = .ok (some (c.point?.getD .null)) := by
  refine (c.readThrough_node body distanceKey c.field).trans ?_
  rw [h.content]
  cases hmode : c.mode with
  | field => simp [key, point?, hmode, h.free.ne_distanceKey]
  | distance point => simp [key, point?, inside, hmode]
  | script code =>
    have hne : scriptKey ≠ distanceKey := by decide
    simp [key, point?, hmode, hne]

/-- The script of a clause is read back as it was last given. -/
theorem Shows.read_script (h : c.Shows body) :
    (c.node body).read "script" = .ok (some (c.code?.getD .null)) := by
  refine (c.readThrough_node body scriptKey "script").trans ?_
  rw [h.content]
  cases hmode : c.mode with
  | field => simp [key, code?, hmode, h.free.ne_scriptKey]
  | distance point =>
    have hne : distanceKey ≠ scriptKey := by decide
    simp [key, code?, hmode, hne]
  | script code => simp [key, code?, inside, hmode]

/-! ### Runs -/

/-- The mode of a clause is the one of the last event that has one. -/
theorem mode_step (c : Clause) (event : ClauseEvent) :
    (c.step event).mode = event.mode?.getD c.mode := by
  cases event with
  | script code => unfold step; cases c.mode <;> rfl
  | _ => rfl

/-- The last switch decides the mode. -/
theorem mode_after (c : Clause) (events : List ClauseEvent) :
    (c.after events).mode = (events.filterMap ClauseEvent.mode?).getLast?.getD c.mode := by
  induction events generalizing c with
  | nil => rfl
  | cons event rest ih =>
    rw [after, List.foldl_cons, ← after, ih, mode_step, List.filterMap_cons]
    cases event.mode? with
    | none => rfl
    | some mode => simp [List.getLast?_cons]

/-- A run: what is shown in the end is the state after the calls that were accepted. -/
theorem Shows.after (h : c.Shows body) {calls : List (String × Arguments)}
    (hcalls : ∀ call ∈ calls, isRename call = true → IsFree call.2.first.name) :
    let c' := c.after ((c.node body).clauseEvents calls)
    ∃ body', (c.node body).after calls = c'.node body' ∧ c'.Shows body' := by
  induction calls generalizing c body with
  | nil => exact ⟨body, rfl, h⟩
  | cons call rest ih =>
    have hrest : ∀ later ∈ rest, isRename later = true → IsFree later.2.first.name :=
      fun later hlater => hcalls later (List.mem_cons_of_mem _ hlater)
    have hcall := h.call (hcalls call List.mem_cons_self)
    rw [Node.clauseEvents, Node.after_cons]
    cases hevent : (c.node body).clauseEvent? call with
    | none =>
      rw [hevent] at hcall
      have hstate : ((c.node body).call call.1 call.2).state = c.node body := hcall
      rw [hstate]
      exact ih h hrest
    | some event =>
      rw [hevent] at hcall
      obtain ⟨-, next, hstate, hnext⟩ : Moves _ (c.step event) := hcall
      rw [hstate]
      exact ih hnext hrest

end Clause

/-- The fragment of a sort clause always has one key, which the last switch decides, and under it
the options that were accepted since the last reset, at their last values, with the point under the
field's name or the script under its own. The name, the point and the script are read as they are
shown, and a call that is not accepted changes nothing. -/
theorem Node.clause_shows (args : Arguments) (calls : List (String × Arguments))
    (hstart : Clause.IsFree (Kind.sort.fieldName args))
    (hcalls : ∀ call ∈ calls, isRename call = true → Clause.IsFree call.2.first.name) :
    let start := (Kind.sort.build args).state
    let n := start.after calls
    let events := start.clauseEvents calls
    let c := Clause.after { field := Kind.sort.fieldName args } events
    (Kind.sort.build args).answer = .ok .self ∧
      (∃ body, n.fragment = .obj [(c.key, .obj body)] ∧ (body.map (·.1)).Nodup ∧
        ∀ key, Entries.get? body key = c.inside key) ∧
      c.mode = (events.filterMap ClauseEvent.mode?).getLast?.getD .field ∧
      n.read "field" = .ok (some (.str c.field)) ∧
      n.read "geo_distance" = .ok (some (c.point?.getD .null)) ∧
      n.read "script" = .ok (some (c.code?.getD .null)) ∧
      ∀ call, (isRename call = true → Clause.IsFree call.2.first.name) →
        match n.clauseEvent? call with
        | none => (n.call call.1 call.2).state = n
        | some _ => (n.call call.1 call.2).answer = .ok .self := by
  intro start n events c
  obtain ⟨body, hn, hshows⟩ : ∃ body, n = c.node body ∧ c.Shows body :=
    (Clause.Shows.start hstart).after hcalls
  refine ⟨rfl, ⟨body, ?_, hshows.nodup, hshows.content⟩, Clause.mode_after _ events, ?_⟩
  · rw [hn]
    rfl
  · rw [hn]
    refine ⟨rfl, hshows.read_distance, hshows.read_script, fun call hname => ?_⟩
    have hcall := hshows.call hname
    cases hevent : (c.node body).clauseEvent? call with
    | none =>
      rw [hevent] at hcall
      exact hcall
    | some event =>
      rw [hevent] at hcall
      exact hcall.1

/-- A clause that is sorted by its field, by distance and by two scripts in turn, under three
names. -/
theorem Node.clause_shows_switched :
    let calls : List (String × Arguments) :=
      [("order", .one (.plain (.str "DESC"))), ("mode", .one (.plain (.str "best"))),
        ("geo_distance",
          .one (.node { shown := "", category := some .geoPoint, fragment := .str "1,2" })),
        ("unit", .one (.plain (.str "KM"))), ("field", .one (.plain (.str "place"))),
        ("script", .one (.plain (.str "a"))), ("lang", .one (.plain (.str "painless"))),
        ("script", .one (.plain (.str "b"))), ("field", .one (.plain (.str "price")))]
    let n := (Kind.sort.build (.one (.plain (.str "age")))).state.after calls
    Clause.IsFree "age" ∧ (∀ call ∈ calls, isRename call = true →
      Clause.IsFree call.2.first.name) ∧
      (∃ body, n.fragment = .obj [("_script", .obj body)] ∧ body.map (·.1) = ["script", "lang"] ∧
        Entries.get? body "script" = some (.str "b") ∧ Entries.get? body "unit" = none) ∧
      n.read "field" = .ok (some (.str "price")) ∧ n.read "geo_distance" = .ok (some .null) ∧
      n.read "script" = .ok (some (.str "b")) := by
  intro calls n
  have hstart : Clause.IsFree "age" := by
    unfold Clause.IsFree
    decide
  have hcalls : ∀ call ∈ calls, isRename call = true → Clause.IsFree call.2.first.name := by
    unfold Clause.IsFree
    decide
  obtain ⟨-, ⟨body, hfragment, -, hbody⟩, -, hfield, hdistance, hscript, -⟩ :=
    clause_shows (.one (.plain (.str "age"))) calls hstart hcalls
  have hkeys : n.fragment = .obj [("_script", .obj [("script", .str "b"),
    ("lang", .str "painless")])] := rfl
  refine ⟨hstart, hcalls, ⟨body, hfragment, ?_, hbody "script", hbody "unit"⟩, hfield, hdistance,
    hscript⟩
  cases hfragment.symm.trans hkeys
  rfl

end SearchBuilder
