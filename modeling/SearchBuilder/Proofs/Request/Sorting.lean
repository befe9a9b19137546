import SearchBuilder.Proofs.Document.Clauses
import SearchBuilder.Proofs.Document.Lists
import SearchBuilder.Proofs.Request.Sections

/-!
# The sort list of a request

One method sorts a request by names, by clauses, by lists of both and by a name with an order.
`sortVerdict` says what a call does, from its arguments alone: it reads, it stores a list or one
clause, it is ignored or it is refused. The method does what the verdict says
(`BodyMethod.run_sort`), and no other method of a request comes near the list, so the list of a
request changes by the gifts of these calls only (`Request.Sorted.call`).
-/

namespace SearchBuilder

/-! ## Verdicts -/

/-- What a sort call does. -/
inductive SortVerdict where
  | read
  | store (gift : Gift)
  | ignore (field word : String)
  | refuse (cause : Misuse)

/-- The clause that an argument stands for: a text as it is, or the fragment of a sort clause. -/
def Argument.sortClause? : Argument → Option Json
  | .plain (.str field) => some (.str field)
  | .node child => if child.category = some .sort then some child.fragment else none
  | _ => none

/-- The clause that sorts by a field in an order. -/
def orderedClause (field word : String) : Json := .obj [(field, .obj [("order", .str word)])]

/-- The verdict on a call: null reads, an order needs a name and nothing else, a list needs names
and clauses only. -/
def sortVerdict (args : Arguments) : SortVerdict :=
  let v := args.first ["order"]
  let order := args.get 1 "order"
  if v.isNull then .read
  else if !order.isNull then
    match v.text?, order.text? with
    | some field, some word =>
      if lower word ∈ ["asc", "desc"] then .store (.one (orderedClause field (lower word)))
      else .ignore field word
    | _, _ => .refuse .badSortPair
  else
    match v.items? with
    | some items =>
      match items.mapM Argument.sortClause? with
      | some clauses => .store (.list clauses)
      | none => .refuse .badSortItem
    | none =>
      match v.sortClause? with
      | some clause => .store (.one clause)
      | none => .refuse .badSort

/-- What a call gives to the sort list. -/
def SortVerdict.gift? : SortVerdict → Option Gift
  | store gift => some gift
  | _ => none

namespace BodyMethod

variable {n : Node}

theorem clause?_eq (hkind : n.kind = .request) (v : Argument) : clause? n v = v.sortClause? := by
  cases v with
  | plain value => cases value <;> rfl
  | node child =>
    by_cases hsort : child.category = some .sort <;>
      simp [clause?, Argument.text?, Argument.satisfies, Argument.child?, Child.satisfies,
        Argument.sortClause?, Argument.snapshot, hsort]
  | receiver =>
    have hcategory : n.toChild.category ≠ some .sort := by
      change n.kind.category ≠ _
      rw [hkind]
      decide
    simp [clause?, Argument.text?, Argument.satisfies, Argument.child?, Child.satisfies,
      Argument.sortClause?, hcategory]
  | _ => rfl

/-- The method does what the verdict says. -/
theorem run_sort (hkind : n.kind = .request) (args : Arguments) :
    sort.run n args =
      match sortVerdict args with
      | .read => n.readOption .root "sort"
      | .store (.list items) => n.writeOption .root "sort" (.arr items)
      | .store (.one item) => n.appendItem .root "sort" fun _ => item
      | .ignore field word => .noticed n (.ignoredOrder field word)
      | .refuse cause => .refused n cause := by
  have hclause : clause? n = Argument.sortClause? := funext (clause?_eq hkind)
  simp only [run, sortVerdict, hclause]
  cases hnull : (args.first ["order"]).isNull with
  | true => rfl
  | false =>
    cases horder : (args.get 1 "order").isNull with
    | false =>
      simp only [Bool.false_eq_true, if_false, Bool.not_false, if_true, sortBy]
      cases (args.first ["order"]).text? with
      | none => rfl
      | some field =>
        cases (args.get 1 "order").text? with
        | none => rfl
        | some word =>
          dsimp only
          by_cases hword : lower word ∈ ["asc", "desc"]
          · have hknown : orders.contains (lower word) = true := List.contains_iff_mem.2 hword
            rw [if_pos hword, if_pos hknown]
            rfl
          · have hknown : ¬ orders.contains (lower word) = true :=
              fun hmem => hword (List.contains_iff_mem.1 hmem)
            rw [if_neg hword, if_neg hknown]
    | true =>
      simp only [Bool.false_eq_true, if_false, Bool.not_true]
      cases (args.first ["order"]).items? with
      | some items =>
        dsimp only
        cases items.mapM Argument.sortClause? <;> rfl
      | none =>
        dsimp only
        cases (args.first ["order"]).sortClause? <;> rfl

end BodyMethod

/-! ## The list -/

namespace Request

/-- Where the sort list is. -/
def sortSpot : Spot := .option .root "sort"

/-- A request with some sort clauses, or without a sort list. -/
structure Sorted (r : Request) (clauses? : Option (List Json)) : Prop where
  kind : r.body.kind = .request
  holds : r.body.look sortSpot = some (clauses?.map .arr)

variable {r : Request} {clauses? : Option (List Json)}

theorem Sorted.held_eq (h : r.Sorted clauses?) :
    r.body.held .root "sort" = clauses?.map .arr := by
  have hlook := r.body.look_eq_map sortSpot
  rw [h.holds] at hlook
  obtain ⟨members, hmembers, hget⟩ := Option.map_eq_some_iff.1 hlook.symm
  rw [Node.held, show (r.body.valueAt .root).members? = some members from hmembers]
  exact hget

theorem build_sorted (args : Arguments) : (build args).state.Sorted none := by
  refine ⟨?_, ?_⟩ <;> rw [build_body] <;> rfl

/-- What the body is after a sort call, and what the call answers. -/
theorem Sorted.run (h : r.Sorted clauses?) (args : Arguments) :
    match sortVerdict args with
    | .read => BodyMethod.sort.run r.body args =
        { state := r.body
          answer :=
            .ok (clauses?.elim (.value .null) fun clauses => .part ["sort"] (.arr clauses)) }
    | .store gift => (BodyMethod.sort.run r.body args).answer = .ok .self ∧
        (BodyMethod.sort.run r.body args).state.look sortSpot =
          some (some (.arr (gift.fill clauses?)))
    | .ignore field word =>
        BodyMethod.sort.run r.body args = .noticed r.body (.ignoredOrder field word)
    | .refuse cause => BodyMethod.sort.run r.body args = .refused r.body cause := by
  rw [BodyMethod.run_sort h.kind]
  cases sortVerdict args with
  | read =>
    refine (r.body.readOption_eq sortSpot).trans ?_
    rw [h.holds]
    cases clauses? <;> rfl
  | ignore | refuse => rfl
  | store gift =>
    cases gift with
    | list items =>
      have hwrite := r.body.writeOption_eq sortSpot (.arr items)
      rw [h.holds] at hwrite
      dsimp only
      rw [show r.body.writeOption .root "sort" (.arr items) = _ from hwrite]
      exact ⟨rfl, Node.look_put_self h.holds _⟩
    | one item =>
      have happend := r.body.appendItem_eq sortSpot fun _ => item
      rw [h.holds] at happend
      dsimp only
      rw [show (r.body.appendItem .root "sort" fun _ => item) = _ from happend]
      have hopened := Node.look_opened h.holds (.arr [])
      cases clauses? with
      | none => exact ⟨rfl, Node.look_put_self hopened _⟩
      | some clauses => exact ⟨rfl, Node.look_put_self hopened _⟩

theorem call_sort (hkind : r.body.kind = .request) (args : Arguments) :
    r.call "sort" args = (BodyMethod.sort.run r.body args).map fun n => { r with body := n } := by
  have hop : Entries.get? Kind.request.methods "sort" = some (.body .sort) := rfl
  exact call_section hkind rfl hop args

/-- A sort call does what its verdict says. -/
theorem Sorted.call_sort (h : r.Sorted clauses?) (args : Arguments) :
    match sortVerdict args with
    | .read => (r.call "sort" args).state = r ∧ (r.call "sort" args).answer =
        .ok (clauses?.elim (.value .null) fun clauses => .part ["sort"] (.arr clauses))
    | .store gift => (r.call "sort" args).answer = .ok .self ∧
        (r.call "sort" args).state.Sorted (some (gift.fill clauses?))
    | .ignore field word => r.call "sort" args = .noticed r (.ignoredOrder field word)
    | .refuse cause => r.call "sort" args = .refused r cause := by
  have hrun := h.run args
  have hkind := (r.call_body_kind "sort" args).trans h.kind
  rw [Request.call_sort h.kind] at hkind ⊢
  cases hverdict : sortVerdict args with
  | read =>
    rw [hverdict] at hrun
    rw [show BodyMethod.sort.run r.body args = _ from hrun]
    exact ⟨rfl, rfl⟩
  | store gift =>
    rw [hverdict] at hrun
    exact ⟨hrun.1, hkind, hrun.2⟩
  | ignore field word =>
    rw [hverdict] at hrun
    rw [show BodyMethod.sort.run r.body args = _ from hrun]
    rfl
  | refuse cause =>
    rw [hverdict] at hrun
    rw [show BodyMethod.sort.run r.body args = _ from hrun]
    rfl

/-- No other method comes near the sort list. -/
theorem Sorted.call_other (h : r.Sorted clauses?) {method : String} (hmethod : method ≠ "sort")
    (args : Arguments) : (r.call method args).state.Sorted clauses? := by
  have htable : ∀ entry ∈ Kind.request.methods, entry.1 = "sort" ∨ entry.2.isInspection = true ∨
      entry.2.rootKey?.any (· ≠ "sort") = true := by decide
  refine ⟨(r.call_body_kind method args).trans h.kind, ?_⟩
  unfold Request.call
  split
  · next m hm => rw [m.run_body r args, h.holds]
  · change (r.body.call method args).state.look sortSpot = _
    unfold Node.call
    rw [h.kind]
    split
    · next op hop =>
      rcases htable _ (Entries.mem_of_get? hop) with hsort | hlook | hkey
      · exact absurd hsort hmethod
      · cases op with
        | inspect i => rw [Operation.run, i.run_state, h.holds]
        | _ => cases hlook
      · obtain ⟨key, hkey, hne⟩ := (Option.any_eq_true _ _).1 hkey
        obtain ⟨writes, hwrites, hstate⟩ := op.run_writes (op.spots?_of_rootKey? hkey) r.body args
        rw [hstate, ← h.holds]
        refine Node.look_puts_of_apart fun write hwrite => ?_
        rw [List.mem_singleton.1 (hwrites write hwrite)]
        exact Path.apart_of_ne [] (of_decide_eq_true hne)
    · exact h.holds

/-- What a call gives to the sort list. -/
def sortGift? (method : String) (args : Arguments) : Option Gift :=
  if method = "sort" then (sortVerdict args).gift? else none

theorem Sorted.call (h : r.Sorted clauses?) (method : String) (args : Arguments) :
    (r.call method args).state.Sorted (Gift.fillAll clauses? (sortGift? method args).toList) := by
  unfold sortGift?
  by_cases hmethod : method = "sort"
  · subst hmethod
    have hcall := h.call_sort args
    rw [if_pos rfl]
    cases hverdict : sortVerdict args with
    | read =>
      rw [hverdict] at hcall
      exact hcall.1.symm ▸ h
    | store gift =>
      rw [hverdict] at hcall
      exact hcall.2
    | ignore | refuse =>
      rw [hverdict] at hcall
      rw [show r.call "sort" args = _ from hcall]
      exact h
  · rw [if_neg hmethod]
    exact h.call_other hmethod args

/-- Calls with one verdict are one call. -/
theorem Sorted.call_sort_congr (h : r.Sorted clauses?) {args args' : Arguments}
    (hverdict : sortVerdict args = sortVerdict args') :
    r.call "sort" args = r.call "sort" args' := by
  rw [Request.call_sort h.kind, Request.call_sort h.kind, BodyMethod.run_sort h.kind,
    BodyMethod.run_sort h.kind, hverdict]

end Request

end SearchBuilder
