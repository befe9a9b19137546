import SearchBuilder.Proofs.Document.Arguments
import SearchBuilder.Request

/-!
# Targets of requests

Building a request is calling its three setters on an empty one (`Request.build_eq_after`), so what
it searches is decided by the last names that its indices and its types were given
(`Request.Follows`). There are no types without an index and no name is there twice. The two lists
can be set in either order, unless both are emptied while there are types
(`Request.withTypes_withIndices_iff`).
-/

namespace SearchBuilder

theorem nodup_eraseDups {α : Type} [BEq α] [LawfulBEq α] (items : List α) :
    items.eraseDups.Nodup := by
  match items with
  | [] => exact List.nodup_nil
  | item :: rest =>
    have hshorter : (rest.filter fun b => !b == item).length < rest.length + 1 :=
      Nat.lt_succ_of_le (List.length_filter_le _ rest)
    rw [List.eraseDups_cons, List.nodup_cons]
    refine ⟨?_, nodup_eraseDups _⟩
    simp [List.mem_eraseDups]
termination_by items.length

theorem eraseDups_eq_nil_iff {α : Type} [BEq α] [LawfulBEq α] {items : List α} :
    items.eraseDups = [] ↔ items = [] := by
  cases items with
  | nil => simp
  | cons item rest => simp [List.eraseDups_cons]

theorem Outcome.andThen_ok {σ : Type} {o : Outcome σ} {next : σ → Outcome σ} {answer : Answer}
    (h : (o.andThen next).answer = .ok answer) :
    (o.andThen next).state = (next o.state).state ∧ (next o.state).answer = .ok answer := by
  unfold andThen at h ⊢
  cases hfirst : o.answer with
  | error fault =>
    rw [hfirst] at h
    cases hfirst.symm.trans h
  | ok first =>
    rw [hfirst] at h
    exact ⟨rfl, h⟩

/-- The indices and types of a request. -/
def Request.targets (r : Request) : List String × List String := (r.indices, r.types)

theorem TargetMethod.run_targets {m : TargetMethod} (hindices : m ≠ .indices) (htypes : m ≠ .types)
    (r : Request) (args : Arguments) : (m.run r args).state.targets = r.targets := by
  cases m with
  | indices => exact absurd rfl hindices
  | types => exact absurd rfl htypes
  | routing =>
    simp only [run]
    split
    · rfl
    · split <;> rfl
  | searchType | preference | path => rfl

namespace Request

/-- The request after some calls, accepted or not. -/
def after (r : Request) (calls : List (String × Arguments)) : Request :=
  calls.foldl (fun r call => (r.call call.1 call.2).state) r

/-- The calls that building a request makes on an empty one. -/
def opening (args : Arguments) : List (String × Arguments) :=
  [("indices", .one (args.get 0 "indices")), ("types", .one (args.get 1 "types")),
    ("routing", .one (args.get 2 "routing"))]

/-- The request with other indices. -/
def withIndices (r : Request) (names : List String) : Request :=
  { r with indices := names.eraseDups }.coerceIndices

/-- The request with other types. -/
def withTypes (r : Request) (names : List String) : Request :=
  { r with types := names.eraseDups }.coerceIndices

variable {r : Request} {args : Arguments}

theorem after_append (r : Request) (calls more : List (String × Arguments)) :
    r.after (calls ++ more) = (r.after calls).after more := List.foldl_append

/-- Building a request is calling two setters on an empty one. -/
theorem build_eq_after {answer : Answer} (h : (build args).answer = .ok answer) :
    (build args).state = empty.after (opening args) := by
  obtain ⟨hindices, htypes⟩ := Outcome.andThen_ok h
  obtain ⟨hstate, -⟩ := Outcome.andThen_ok htypes
  exact hindices.trans hstate

/-- A call runs a method about the target, or it is one on the body. -/
theorem call_cases (r : Request) (method : String) (args : Arguments) :
    (∃ m, (method, m) ∈ targetMethods ∧ r.call method args = m.run r args) ∨
      ∃ n, (r.call method args).state = { r with body := n } := by
  unfold Request.call
  split
  · next m hm => exact .inl ⟨m, Entries.mem_of_get? hm, rfl⟩
  · exact .inr ⟨_, rfl⟩

/-! ## Setting one list -/

@[simp] theorem withIndices_types (r : Request) (names : List String) :
    (r.withIndices names).types = r.types := by
  unfold withIndices coerceIndices
  split <;> rfl

/-- Setting no indices leaves all of them, if there are types. -/
theorem withIndices_indices (r : Request) (names : List String) :
    (r.withIndices names).indices =
      if names = [] ∧ r.types ≠ [] then [allIndices] else names.eraseDups := by
  simp only [withIndices, coerceIndices, Bool.and_eq_true, Bool.not_eq_true', List.isEmpty_iff,
    List.isEmpty_eq_false_iff, eraseDups_eq_nil_iff]
  split <;> rfl

@[simp] theorem withTypes_types (r : Request) (names : List String) :
    (r.withTypes names).types = names.eraseDups := by
  unfold withTypes coerceIndices
  split <;> rfl

/-- Setting types makes the indices all of them, if there are none. -/
theorem withTypes_indices (r : Request) (names : List String) :
    (r.withTypes names).indices =
      if r.indices = [] ∧ names ≠ [] then [allIndices] else r.indices := by
  simp only [withTypes, coerceIndices, Bool.and_eq_true, Bool.not_eq_true', List.isEmpty_iff,
    List.isEmpty_eq_false_iff, ne_eq, eraseDups_eq_nil_iff]
  split <;> rfl

/-- Only the emptied lists of a request with types depend on the order: it is the types that were
there before which make the indices `_all`. -/
theorem withTypes_withIndices_iff (r : Request) (indices types : List String) :
    ((r.withIndices indices).withTypes types).targets =
        ((r.withTypes types).withIndices indices).targets ↔
      ¬ (indices = [] ∧ types = [] ∧ r.types ≠ []) := by
  simp only [targets, Prod.mk.injEq, withTypes_types, withIndices_types, and_true,
    withTypes_indices, withIndices_indices, ne_eq, eraseDups_eq_nil_iff]
  by_cases hindices : indices = [] <;> by_cases htypes : types = [] <;>
    by_cases hold : r.types = [] <;>
    simp [hindices, htypes, hold, eraseDups_eq_nil_iff]

/-! ## Calls -/

/-- The names that a call gives to a list, if it is a call of this setter and is accepted. -/
def namesGiven? (setter : String) (call : String × Arguments) : Option (List String) :=
  if call.1 = setter then call.2.first.names? else none

/-- The last names that calls give to a list. -/
def lastNames? (setter : String) (calls : List (String × Arguments)) : Option (List String) :=
  (calls.filterMap (namesGiven? setter)).getLast?

theorem lastNames?_cons (setter : String) (call : String × Arguments)
    (calls : List (String × Arguments)) :
    lastNames? setter (call :: calls) =
      (lastNames? setter calls).or (namesGiven? setter call) := by
  unfold lastNames?
  cases h : namesGiven? setter call with
  | none => rw [List.filterMap_cons_none h, Option.or_none]
  | some names =>
    rw [List.filterMap_cons_some h, List.getLast?_cons]
    cases (calls.filterMap (namesGiven? setter)).getLast? <;> rfl

/-- The request with other names in the list of a setter. -/
def setNames (r : Request) (setter : String) (names : List String) : Request :=
  if setter = "indices" then r.withIndices names else r.withTypes names

/-- The names in the list of a setter. -/
def namesOf (r : Request) (setter : String) : List String :=
  if setter = "indices" then r.indices else r.types

section Setters

variable {setter : String} (hsetter : setter = "indices" ∨ setter = "types")
include hsetter

/-- A setter of a list takes names, reads the list if it is given nothing, and refuses the rest. -/
theorem call_setter (r : Request) (args : Arguments) :
    r.call setter args =
      match args.first.names? with
      | some names => .chained (r.setNames setter names)
      | none =>
        if args.first.isNull then .value r (.ofStrings (r.namesOf setter))
        else .refused r (.notNames setter) := by
  rcases hsetter with rfl | rfl
  · change TargetMethod.indices.run r args = _
    cases hnull : args.first.isNull with
    | true =>
      have hnames : args.first.names? = none := Argument.eq_null hnull ▸ rfl
      simp [TargetMethod.run, namesOf, hnames, hnull]
    | false =>
      cases hnames : args.first.names? <;>
        simp [TargetMethod.run, distinctNames?, setNames, withIndices, hnull, hnames]
  · change TargetMethod.types.run r args = _
    cases hnull : args.first.isNull with
    | true =>
      have hnames : args.first.names? = none := Argument.eq_null hnull ▸ rfl
      simp [TargetMethod.run, namesOf, hnames, hnull]
    | false =>
      cases hnames : args.first.names? <;>
        simp [TargetMethod.run, distinctNames?, setNames, withTypes, hnull, hnames]

theorem call_names (r : Request) {names : List String} (h : args.first.names? = some names) :
    r.call setter args = .chained (r.setNames setter names) := by
  rw [call_setter hsetter, h]

/-- A setter sets the names that it is given, or does nothing. -/
theorem call_setter_state (r : Request) (args : Arguments) :
    (r.call setter args).state =
      match args.first.names? with
      | some names => r.setNames setter names
      | none => r := by
  rw [call_setter hsetter]
  cases args.first.names? with
  | some names => rfl
  | none => cases args.first.isNull <;> rfl

/-- A setter answers the request exactly if it is given names. -/
theorem call_accepted (r : Request) (args : Arguments) :
    (r.call setter args).answer = .ok .self ↔ ∃ names, args.first.names? = some names := by
  rw [call_setter hsetter]
  cases args.first.names? with
  | some names => simp [Outcome.chained]
  | none => cases args.first.isNull <;> simp [Outcome.value, Outcome.refused, Outcome.failed]

end Setters

/-- A call sets the indices or the types to names, or it leaves both. -/
theorem call_targets (r : Request) (call : String × Arguments) :
    (r.call call.1 call.2).state.targets =
      match namesGiven? "indices" call, namesGiven? "types" call with
      | some names, _ => (r.withIndices names).targets
      | none, some names => (r.withTypes names).targets
      | none, none => r.targets := by
  obtain ⟨method, args⟩ := call
  unfold namesGiven?
  by_cases hindices : method = "indices"
  · subst hindices
    have htypes : "indices" ≠ "types" := by decide
    simp only [if_true, if_neg htypes, call_setter_state (.inl rfl)]
    cases args.first.names? <;> rfl
  by_cases htypes : method = "types"
  · subst htypes
    simp only [if_true, if_neg hindices, call_setter_state (.inr rfl)]
    cases args.first.names? <;> rfl
  simp only [if_neg hindices, if_neg htypes]
  rcases r.call_cases method args with ⟨m, hm, hcall⟩ | ⟨n, hstate⟩
  · rw [hcall]
    refine TargetMethod.run_targets ?_ ?_ r args
    · rintro rfl
      exact hindices (by simpa [targetMethods] using hm)
    · rintro rfl
      exact htypes (by simpa [targetMethods] using hm)
  · rw [hstate]
    rfl

/-! ## Runs -/

/-- The targets of a request to which some names were last given. -/
structure Follows (r : Request) (indices types : Option (List String)) : Prop where
  types_eq : r.types = (types.getD []).eraseDups
  indices_eq : indices.getD [] ≠ [] → r.indices = (indices.getD []).eraseDups
  indices_default : indices.getD [] = [] → r.indices = [] ∨ r.indices = [allIndices]
  addressable : r.types ≠ [] → r.indices ≠ []

namespace Follows

variable {indices types : Option (List String)}

theorem congr {r' : Request} (h : r.Follows indices types) (hr : r'.targets = r.targets) :
    r'.Follows indices types := by
  obtain ⟨hindices, htypes⟩ := Prod.mk.inj hr
  constructor
  · exact htypes ▸ h.types_eq
  · exact hindices ▸ h.indices_eq
  · exact hindices ▸ h.indices_default
  · exact hindices ▸ htypes ▸ h.addressable

theorem withIndices (h : r.Follows indices types) (names : List String) :
    (r.withIndices names).Follows (some names) types := by
  constructor
  · rw [withIndices_types]
    exact h.types_eq
  · intro hnames
    rw [withIndices_indices, if_neg fun hempty => hnames hempty.1]
    rfl
  · intro hnames
    rw [Option.getD_some] at hnames
    subst hnames
    rw [withIndices_indices]
    split
    · exact .inr rfl
    · exact .inl rfl
  · intro htypes
    rw [withIndices_types] at htypes
    rw [withIndices_indices]
    split
    · exact List.cons_ne_nil _ _
    · next hnames =>
      exact fun hempty => hnames ⟨eraseDups_eq_nil_iff.1 hempty, htypes⟩

theorem withTypes (h : r.Follows indices types) (names : List String) :
    (r.withTypes names).Follows indices (some names) := by
  have hkept : r.indices ≠ [] → (r.withTypes names).indices = r.indices := by
    intro hr
    rw [withTypes_indices, if_neg fun hempty => hr hempty.1]
  constructor
  · exact withTypes_types r names
  · intro hindices
    have heq := h.indices_eq hindices
    rw [hkept (heq ▸ fun hempty => hindices (eraseDups_eq_nil_iff.1 hempty))]
    exact heq
  · intro hindices
    rw [withTypes_indices]
    split
    · exact .inr rfl
    · exact h.indices_default hindices
  · intro htypes
    rw [withTypes_types, ne_eq, eraseDups_eq_nil_iff] at htypes
    rw [withTypes_indices]
    split
    · exact List.cons_ne_nil _ _
    · next hempty => exact fun hr => hempty ⟨hr, htypes⟩

/-- A call follows the names that it gives. -/
theorem call (h : r.Follows indices types) (call : String × Arguments) :
    (r.call call.1 call.2).state.Follows ((namesGiven? "indices" call).or indices)
      ((namesGiven? "types" call).or types) := by
  have hboth : namesGiven? "indices" call = none ∨ namesGiven? "types" call = none := by
    unfold namesGiven?
    by_cases hname : call.1 = "indices"
    · exact .inr (if_neg (hname ▸ by decide))
    · exact .inl (if_neg hname)
  have htargets := call_targets r call
  cases hindices : namesGiven? "indices" call with
  | some names =>
    rw [hindices] at hboth htargets
    rw [hboth.resolve_left (Option.some_ne_none names)]
    exact (h.withIndices names).congr htargets
  | none =>
    rw [hindices] at htargets
    cases htypes : namesGiven? "types" call with
    | some names =>
      rw [htypes] at htargets
      exact (h.withTypes names).congr htargets
    | none =>
      rw [htypes] at htargets
      exact h.congr htargets

end Follows

/-- After some calls the targets follow the last names that each setter was given. -/
theorem Follows.after {indices types : Option (List String)} (h : r.Follows indices types)
    (calls : List (String × Arguments)) :
    (r.after calls).Follows ((lastNames? "indices" calls).or indices)
      ((lastNames? "types" calls).or types) := by
  induction calls generalizing r indices types with
  | nil => exact h
  | cons call calls ih =>
    -- What the first call gives only counts if no later call gives names.
    rw [lastNames?_cons, lastNames?_cons, Option.or_assoc, Option.or_assoc]
    exact ih (h.call call)

theorem follows_empty : empty.Follows none none where
  types_eq := rfl
  indices_eq := fun h => absurd rfl h
  indices_default := fun _ => .inl rfl
  addressable := fun h => absurd rfl h

/-- The targets of a built request follow its construction and its calls. -/
theorem follows_built {answer : Answer} (h : (build args).answer = .ok answer)
    (calls : List (String × Arguments)) :
    ((build args).state.after calls).Follows (lastNames? "indices" (opening args ++ calls))
      (lastNames? "types" (opening args ++ calls)) := by
  rw [build_eq_after h, ← after_append]
  simpa using follows_empty.after (opening args ++ calls)

/-! ## The order of setting both lists -/

section Order

variable {v w : Argument} {indices types : List String}

theorem call_indices (r : Request) (h : v.names? = some indices) :
    r.call "indices" (.one v) = .chained (r.withIndices indices) := call_names (.inl rfl) r h

theorem call_types (r : Request) (h : w.names? = some types) :
    r.call "types" (.one w) = .chained (r.withTypes types) := call_names (.inr rfl) r h

theorem after_indices_types (r : Request) (hv : v.names? = some indices)
    (hw : w.names? = some types) :
    r.after [("indices", .one v), ("types", .one w)] =
      (r.withIndices indices).withTypes types := by
  change ((r.call "indices" (.one v)).state.call "types" (.one w)).state = _
  rw [call_indices r hv, call_types _ hw]
  rfl

theorem after_types_indices (r : Request) (hv : v.names? = some indices)
    (hw : w.names? = some types) :
    r.after [("types", .one w), ("indices", .one v)] =
      (r.withTypes types).withIndices indices := by
  change ((r.call "types" (.one w)).state.call "indices" (.one v)).state = _
  rw [call_types r hw, call_indices _ hv]
  rfl

/-- A construction with names is two calls of setters. -/
theorem build_names (hv : v.names? = some indices) (hw : w.names? = some types) :
    (∃ answer, (build { positional := [v, w] }).answer = .ok answer) ∧
      (build { positional := [v, w] }).state = (empty.withIndices indices).withTypes types := by
  have hbuild : build { positional := [v, w] } =
      (empty.call "indices" (.one v)).andThen fun r =>
        (r.call "types" (.one w)).andThen fun r => .value r (.str r.routing) := rfl
  rw [hbuild, call_indices empty hv]
  simp only [Outcome.andThen, Outcome.chained, call_types _ hw]
  exact ⟨⟨_, rfl⟩, rfl⟩

end Order

/-! ## Main result -/

/-- What a request searches, from the history of its setters. -/
theorem targets_from_history (args : Arguments) (calls : List (String × Arguments))
    (hbuilt : ∃ answer, (build args).answer = .ok answer) :
    let r := (build args).state.after calls
    let history := opening args ++ calls
    let lastIndices := (lastNames? "indices" history).getD []
    (r.call "indices" {}).answer = .ok (.value (.ofStrings r.indices)) ∧
    (r.call "types" {}).answer = .ok (.value (.ofStrings r.types)) ∧
    (r.types ≠ [] → r.indices ≠ []) ∧ r.indices.Nodup ∧ r.types.Nodup ∧
    r.types = ((lastNames? "types" history).getD []).eraseDups ∧
    (lastIndices ≠ [] → r.indices = lastIndices.eraseDups) ∧
    (lastIndices = [] → r.indices = [] ∨ r.indices = [allIndices]) ∧
    (∀ setter ∈ ["indices", "types"], ∀ (q : Request) (args : Arguments),
      (q.call setter args).answer = .ok .self ↔ ∃ names, args.first.names? = some names) ∧
    ∀ v w indices types, v.names? = some indices → w.names? = some types →
      let setIndices : String × Arguments := ("indices", .one v)
      let setTypes : String × Arguments := ("types", .one w)
      let built := build { positional := [v, w] }
      ((∃ answer, built.answer = .ok answer) ∧
        built.state.targets = (empty.after [setIndices, setTypes]).targets ∧
        built.state.targets = (empty.after [setTypes, setIndices]).targets) ∧
      ((r.after [setIndices, setTypes]).targets = (r.after [setTypes, setIndices]).targets ↔
        ¬ (indices = [] ∧ types = [] ∧ r.types ≠ [])) := by
  intro r history lastIndices
  obtain ⟨answer, hanswer⟩ := hbuilt
  have hfollows : r.Follows _ _ := follows_built hanswer calls
  refine ⟨rfl, rfl, hfollows.addressable, ?_, ?_, hfollows.types_eq, hfollows.indices_eq,
    hfollows.indices_default, ?_, ?_⟩
  · by_cases hlast : lastIndices = []
    · rcases hfollows.indices_default hlast with h | h
      · exact h ▸ List.nodup_nil
      · simp [h]
    · exact hfollows.indices_eq hlast ▸ nodup_eraseDups _
  · exact hfollows.types_eq ▸ nodup_eraseDups _
  · intro setter hsetter q args
    exact call_accepted (by simpa using hsetter) q args
  · intro v w indices types hv hw setIndices setTypes built
    obtain ⟨hok, hstate⟩ := build_names hv hw
    have hsame := (withTypes_withIndices_iff empty indices types).2 fun h => h.2.2 rfl
    refine ⟨⟨hok, ?_, ?_⟩, ?_⟩
    · rw [hstate, after_indices_types empty hv hw]
    · rw [hstate, after_types_indices empty hv hw]
      exact hsame
    · rw [after_indices_types r hv hw, after_types_indices r hv hw]
      exact withTypes_withIndices_iff r indices types

/-- With types kept from the start, `_all` outlives the index that was set in between, and emptying
both lists then depends on the order. -/
theorem targets_from_history_emptied :
    let names (texts : List String) : Arguments := .one (.plain (.ofStrings texts))
    let args : Arguments := { named := [("types", .plain (.ofStrings ["a", "b", "a"]))] }
    let r := (build args).state.after
      [("indices", names ["logs"]), ("types", .one (.plain (.int 5))), ("indices", names [])]
    (∃ answer, (build args).answer = .ok answer) ∧ r.targets = ([allIndices], ["a", "b"]) ∧
      (r.after [("indices", names []), ("types", names [])]).targets ≠
        (r.after [("types", names []), ("indices", names [])]).targets := by
  intro names args r
  have hbuilt : ∃ answer, (build args).answer = .ok answer := ⟨_, rfl⟩
  obtain ⟨-, -, haddressable, -, -, htypes, -, hdefault, -, horder⟩ :=
    targets_from_history args _ hbuilt
  have hr : r.types = ["a", "b"] := htypes
  have hnonempty : r.types ≠ [] := by
    rw [hr]
    decide
  refine ⟨hbuilt, ?_, ?_⟩
  · rcases hdefault rfl with hindices | hindices
    · exact absurd hindices (haddressable hnonempty)
    · exact Prod.ext hindices hr
  · intro hsame
    have hexcept := (horder (.plain (.arr [])) (.plain (.arr [])) [] [] rfl rfl).2.1 hsame
    exact hexcept ⟨rfl, rfl, hnonempty⟩

end Request

end SearchBuilder
