import SearchBuilder.Proofs.Document.Children
import SearchBuilder.Proofs.Document.Enumerations
import SearchBuilder.Proofs.Request.Path
import SearchBuilder.Proofs.Request.Sorting

/-!
# Enumerated options of a request

A request keeps words in two places: its search type among the URL parameters, and the orders of its
sort list, where a name with an order stands as the clause of a sort node. `Request.Canonical` says
that these are words that the options take, as far as the clauses come from sort nodes, and every
call keeps it so (`Request.Canonical.call`).
-/

namespace SearchBuilder

/-! ## Clauses -/

/-- An entry of a sort list: a name, or a clause with words for its enumerated options. -/
def Json.IsClause (clause : Json) : Prop :=
  (∃ field, clause = .str field) ∨
    ∃ slot body, clause = .obj [(slot, .obj body)] ∧ Kind.sort.Enumerates .body body

theorem orderedClause_isClause (field : String) {word : String} (h : word ∈ BodyMethod.orders) :
    (orderedClause field word).IsClause := by
  refine .inr ⟨field, _, rfl, (Kind.sort.enumerates_nil .body).set fun e hitem => ?_⟩
  have htable : ∀ item ∈ Kind.sort.enumerations, item.1 = .option .body "order" →
      item.2 = .word BodyMethod.orders := by decide +kernel
  obtain rfl : e = .word BodyMethod.orders := htable _ hitem rfl
  exact ⟨word, h, rfl⟩

/-- What a sort list may hold of another node. Fragments of foreign sort nodes are what they are. -/
def Child.Sorts (foreign : Json → Prop) (child : Child) : Prop :=
  child.category = some .sort → child.fragment.IsClause ∨ foreign child.fragment

variable {foreign : Json → Prop}

theorem Argument.Shows.sortClause {v : Argument} (h : v.Shows (Child.Sorts foreign))
    {clause : Json} (hclause : v.sortClause? = some clause) :
    clause.IsClause ∨ foreign clause := by
  cases h with
  | plain value =>
    cases value with
    | str field =>
      cases hclause
      exact .inl (.inl ⟨field, rfl⟩)
    | _ => cases hclause
  | node hchild =>
    obtain ⟨hcategory, hfragment⟩ := Option.ite_none_right_eq_some.1 hclause
    cases hfragment
    exact hchild hcategory
  | _ => cases hclause

theorem Argument.Shows.sortClauses {items : List Argument}
    (h : ∀ item ∈ items, item.Shows (Child.Sorts foreign)) {clauses : List Json}
    (hclauses : items.mapM sortClause? = some clauses) :
    ∀ clause ∈ clauses, clause.IsClause ∨ foreign clause := by
  induction items generalizing clauses with
  | nil =>
    cases hclauses
    exact List.forall_mem_nil _
  | cons item rest ih =>
    obtain ⟨hitem, hrest⟩ := List.forall_mem_cons.1 h
    rw [List.mapM_cons] at hclauses
    obtain ⟨clause, hclause, hclauses⟩ := Option.bind_eq_some_iff.1 hclauses
    obtain ⟨later, hlater, hclauses⟩ := Option.bind_eq_some_iff.1 hclauses
    cases hclauses
    exact List.forall_mem_cons.2 ⟨hitem.sortClause hclause, ih hrest hlater⟩

/-- What a sort call gives is made of clauses. -/
theorem Arguments.Show.sortGift {args : Arguments} (h : args.Show (Child.Sorts foreign))
    {gift : Gift} (hgift : sortVerdict args = .store gift) {clauses? : Option (List Json)}
    (hclauses : ∀ clause ∈ clauses?.getD [], clause.IsClause ∨ foreign clause) :
    ∀ clause ∈ gift.fill clauses?, clause.IsClause ∨ foreign clause := by
  have hone {clause : Json} (hclause : clause.IsClause ∨ foreign clause) :
      ∀ other ∈ (Gift.one clause).fill clauses?, other.IsClause ∨ foreign other := by
    intro other hother
    rcases List.mem_append.1 hother with hold | hnew
    · exact hclauses other hold
    · exact List.mem_singleton.1 hnew ▸ hclause
  have hv := h.first ["order"]
  unfold sortVerdict at hgift
  dsimp only at hgift
  split at hgift
  · cases hgift
  split at hgift
  · split at hgift
    · next field word _ _ =>
      split at hgift
      · next hword =>
        cases hgift
        exact hone (.inl (orderedClause_isClause field hword))
      · cases hgift
    · cases hgift
  · split at hgift
    · next items hitems =>
      split at hgift
      · next clauses hmap =>
        cases hgift
        exact Argument.Shows.sortClauses (Argument.items_show hv hitems) hmap
      · cases hgift
    · split at hgift
      · next clause hclause =>
        cases hgift
        exact hone (hv.sortClause hclause)
      · cases hgift

/-! ## Requests -/

namespace Request

/-- The search type is absent or a word, and the sort list is absent or made of clauses. -/
structure Canonical (foreign : Json → Prop) (r : Request) : Prop where
  searchType :
    (Enumeration.word Words.searchTypes).Allows (some (Entries.get? r.params "search_type"))
  sort : ∃ clauses?, r.Sorted clauses? ∧
    ∀ clause ∈ clauses?.getD [], clause.IsClause ∨ foreign clause

variable {r : Request} {args : Arguments}

theorem runParam_params {a : Accessor} {v : Argument} {key : String} {held : Option Json}
    (h : (a.run r.paramsNode v).state.look (.option .root key) = some held) :
    Entries.get? (r.runParam a v).state.params key = held := by
  obtain ⟨members, hmembers, hheld⟩ := Node.exists_members_of_look h
  change (a.run r.paramsNode v).state.fragment = .obj members at hmembers
  simp only [runParam, hmembers]
  exact hheld

theorem look_paramsNode (r : Request) (key : String) :
    r.paramsNode.look (.option .root key) = some (Entries.get? r.params key) :=
  Node.look_of_fragment rfl key

/-- The setter of the search type, on the parameters as a node. -/
def searchTypeSetter : Operation :=
  .accessor (.choice .root "search_type" Words.searchTypes .lower)

/-- The search type is set to a word or not at all. -/
theorem call_searchType
    (h : (Enumeration.word Words.searchTypes).Allows (some (Entries.get? r.params "search_type")))
    (method : String) (args : Arguments) : (Enumeration.word Words.searchTypes).Allows
      (some (Entries.get? (r.call method args).state.params "search_type")) := by
  rcases r.call_cases method args with ⟨m, -, hcall⟩ | ⟨n, hstate⟩
  · rw [hcall]
    have hlook := r.look_paramsNode "search_type"
    by_cases hsearchType : m = .searchType
    · subst hsearchType
      have hrun := @Operation.run_enumerated r.paramsNode _ _ searchTypeSetter rfl rfl
        (hlook.symm ▸ h) args
      obtain ⟨held, hheld⟩ := hrun.exists_held
      rw [hheld] at hrun
      rw [TargetMethod.run, runParam_params hheld]
      exact hrun
    by_cases hpreference : m = .preference
    · subst hpreference
      obtain ⟨writes, hwrites, hstate⟩ :=
        (Operation.accessor (.option .root "preference")).run_writes rfl r.paramsNode args
      have hsame : (r.paramsNode.puts writes).look (.option .root "search_type") =
          r.paramsNode.look (.option .root "search_type") := by
        refine Node.look_puts_of_apart fun write hwrite => ?_
        rw [List.mem_singleton.1 (hwrites write hwrite)]
        exact Path.apart_of_ne [] (show "preference" ≠ "search_type" by decide)
      rw [← hstate, hlook] at hsame
      rw [TargetMethod.run, runParam_params hsame]
      exact h
    · rw [run_params_other hsearchType hpreference]
      exact h
  · rw [hstate]
    exact h

theorem build_params (args : Arguments) : (build args).state.params = [] := by
  have hrun {m : TargetMethod} (hsearchType : m ≠ .searchType) (hpreference : m ≠ .preference)
      (args : Arguments) (r : Request) (hr : r.params = []) : (m.run r args).state.params = [] :=
    (run_params_other hsearchType hpreference r args).trans hr
  refine Outcome.andThen_keeps (P := fun r : Request => r.params = [])
    (hrun (m := .indices) (by decide) (by decide) _ _ rfl) fun r hr => ?_
  exact Outcome.andThen_keeps (P := fun r : Request => r.params = [])
    (hrun (m := .types) (by decide) (by decide) _ r hr)
    fun r' => hrun (m := .routing) (by decide) (by decide) _ r'

theorem build_canonical (foreign : Json → Prop) (args : Arguments) :
    (build args).state.Canonical foreign := by
  refine ⟨?_, none, build_sorted args, List.forall_mem_nil _⟩
  rw [build_params]
  exact .empty

/-- Every call keeps a request canonical. -/
theorem Canonical.call (h : r.Canonical foreign) (method : String)
    (hargs : args.Show (Child.Sorts foreign)) :
    (r.call method args).state.Canonical foreign := by
  obtain ⟨hsearchType, clauses?, hsorted, hclauses⟩ := h
  refine ⟨call_searchType hsearchType method args, _, hsorted.call method args, ?_⟩
  cases hgift : sortGift? method args with
  | none => exact hclauses
  | some gift =>
    unfold sortGift? at hgift
    split at hgift
    · cases hverdict : sortVerdict args with
      | store given =>
        rw [hverdict] at hgift
        cases hgift
        exact hargs.sortGift hverdict hclauses
      | _ =>
        rw [hverdict] at hgift
        cases hgift
    · cases hgift

/-! ### Other words -/

theorem call_searchType_unknown {word : String} (hword : args.first.text? = some word)
    (hunknown : lower word ∉ Words.searchTypes) :
    r.call "search_type" args = .noticed r (.ignoredWord "search_type" "Request" word) := by
  have hrun : searchTypeSetter.run r.paramsNode args = _ :=
    Operation.run_unknown rfl hword hunknown
  change r.runParam (.choice .root "search_type" Words.searchTypes .lower) args.first = _
  rw [runParam, show Accessor.run _ r.paramsNode args.first = _ from hrun]
  rfl

theorem call_searchType_notText (hgiven : args.first.isNull = false)
    (htext : args.first.text? = none) :
    r.call "search_type" args = .refused r (.notText "search_type") := by
  have hrun : searchTypeSetter.run r.paramsNode args = _ := Operation.run_notText rfl hgiven htext
  change r.runParam (.choice .root "search_type" Words.searchTypes .lower) args.first = _
  rw [runParam, show Accessor.run _ r.paramsNode args.first = _ from hrun]
  rfl

end Request

theorem sortVerdict_unknown {args : Arguments} {field word : String}
    (hfield : (args.first ["order"]).text? = some field)
    (hword : (args.get 1 "order").text? = some word) (hunknown : lower word ∉ BodyMethod.orders) :
    sortVerdict args = .ignore field word := by
  simp only [sortVerdict, Argument.isNull_of_text? hfield, Argument.isNull_of_text? hword,
    Bool.false_eq_true, if_false, Bool.not_false, if_true, hfield, hword]
  exact if_neg hunknown

theorem sortVerdict_notText {args : Arguments} (hgiven : (args.first ["order"]).isNull = false)
    (horder : (args.get 1 "order").isNull = false)
    (hnone : (args.first ["order"]).text? = none ∨ (args.get 1 "order").text? = none) :
    sortVerdict args = .refuse .badSortPair := by
  simp only [sortVerdict, hgiven, horder, Bool.false_eq_true, if_false, Bool.not_false, if_true]
  rcases hnone with hfield | hword
  · rw [hfield]
  · rw [hword]
    cases (args.first ["order"]).text? <;> rfl

end SearchBuilder
