import SearchBuilder.Proofs.Request.Sorting
import SearchBuilder.Proofs.Session.Events
import SearchBuilder.Proofs.Session.Lists
import SearchBuilder.Proofs.Session.Refusal

/-!
# The sort list through a program

`Session.sortGifts` follows through a program what the request under a name is given to sort by. Its
sort list is the last list that was given with the single clauses given after it, and absent before
anything is given (`Session.sort_replayed`). A clause is given as it is at the time of the call,
whatever happens to its node later, and a name with an order is given as the clause that a sort node
of that name and order has.
-/

namespace SearchBuilder

/-! ## A name and an order -/

/-- The node that sorts by a field in an order, built on the spot. -/
def Operand.ordered (field order : String) : Operand :=
  .fresh .sort [.plain (.str field)] [] [("order", [.plain (.str order)])]

/-- A sort node that is given an order has the clause of a name with that order. -/
theorem Operand.eval_ordered (scope : Scope) (receiver : Option String) (field : String)
    {order : String} (horder : lower order ∈ ["asc", "desc"]) :
    ∃ child : Child, child.category = some .sort ∧
      child.fragment = orderedClause field (lower order) ∧
      Operand.eval scope receiver (.ordered field order) = (.ok (.node child), []) := by
  have hknown : BodyMethod.orders.contains (lower order) = true := List.contains_iff_mem.2 horder
  have hcall : (Clause.node { field } []).call "order" { positional := [.plain (.str order)] } =
      .shifted (Clause.node { field } [("order", .str (lower order))]) [.taken [field, "order"]] :=
    (if_pos hknown).trans (Clause.writeOption_node { field } [] "order" _)
  refine ⟨(Clause.node { field } [("order", .str (lower order))]).toChild, rfl, rfl, ?_⟩
  have hbuilt : Object.build .sort { positional := [.plain (.str field)] } =
      .chained (.node (Clause.node { field } [])) := rfl
  have hordered : (Object.node (Clause.node { field } [])).call "order"
      { positional := [.plain (.str order)] } = _ := congrArg (Outcome.map Object.node) hcall
  simp only [ordered, eval, evalList, evalNamed, evalCalls, Logged.bind, Logged.pure]
  rw [hbuilt]
  simp only [Logged.ofOutcome, Outcome.chained, Except.map, Except.mapError]
  rw [hordered]
  rfl

/-! ## Gifts of a program -/

namespace Session

/-- The gifts to the sort list of a request after an event. A new request begins anew. -/
def Event.sortGifts (gifts : List Gift) : Option Event → List Gift
  | some (.built _ _) => []
  | some (.called method args) => gifts ++ (Request.sortGift? method args).toList
  | none => gifts

def sortGiftsFrom (name : String) (gifts : List Gift) (s : Session) : List Step → List Gift
  | [] => gifts
  | first :: rest =>
    sortGiftsFrom name (Event.sortGifts gifts (s.event? name first)) (s.step first).session rest

/-- All gifts of a program to the sort list of the request that is under a name in the end. -/
def sortGifts (name : String) (s : Session) (steps : List Step) : List Gift :=
  s.sortGiftsFrom name [] steps

/-- The request under a name sorts by what it was given. -/
def Sorts (s : Session) (name : String) (gifts : List Gift) : Prop :=
  ∀ r, Entries.get? s.bindings name = some (.object (.request r)) →
    r.Sorted (Gift.fillAll none gifts)

variable {s : Session} {name : String} {gifts : List Gift}

/-- A step sorts by what it gives. -/
theorem Sorts.step (h : s.Sorts name gifts) (step : Step) :
    (s.step step).session.Sorts name (Event.sortGifts gifts (s.event? name step)) := by
  intro r hr
  have hhappens := Happens.step s name step
  generalize s.event? name step = event at hhappens
  cases hhappens with
  | built kind args hanswer hbound =>
    rw [hbound] at hr
    have hstate : (Object.build kind args).state = .request r :=
      Binding.object.inj (Option.some.inj hr)
    unfold Object.build at hstate
    split at hstate
    · obtain rfl : (Request.build args).state = r := Object.request.inj hstate
      exact Request.build_sorted args
    · cases hstate
  | called o method args hbefore hbound =>
    rw [hbound] at hr
    have hstate : (o.call method args).state = .request r :=
      Binding.object.inj (Option.some.inj hr)
    cases o with
    | node n => cases hstate
    | request r₀ =>
      obtain rfl : (r₀.call method args).state = r := Object.request.inj hstate
      have hcall := (h r₀ hbefore).call method args
      rwa [Event.sortGifts, Gift.fillAll, List.foldl_append]
  | kept hkept => exact h r (hkept ▸ hr)
  | rebound id hrebound =>
    rw [hrebound] at hr
    cases hr

/-- After a program the request is sorted by what its steps gave. -/
theorem Sorts.after (h : s.Sorts name gifts) (steps : List Step) :
    (s.after steps).Sorts name (s.sortGiftsFrom name gifts steps) := by
  induction steps generalizing s gifts with
  | nil => exact h
  | cons first rest ih => exact ih (h.step first)

/-! ## Calls -/

section Calls

variable {r : Request} {clauses? : Option (List Json)} {operands : Operands} {args : Arguments}
  (hr : Entries.get? s.bindings name = some (.object (.request r)))
  (heval : (Operand.evalAll s.scope (some name) operands).1 = .ok args)
include hr

theorem step_sort (handlers : Handlers) : s.step (.call name "sort" operands handlers) =
    s.callObject name (.request r) "sort" operands := by
  have hsearch : ¬ ("sort" = "do_search") := by decide
  simp only [step, call, hr, if_neg hsearch]

include heval

theorem sort_session (handlers : Handlers) :
    (s.step (.call name "sort" operands handlers)).session =
      s.bind name (.object (.request (r.call "sort" args).state)) := by
  rw [step_sort hr, callObject_session heval]
  rfl

theorem sort_response (handlers : Handlers) :
    (s.step (.call name "sort" operands handlers)).response =
      (((r.call "sort" args).answer >>= Answer.write s.platform.digits).map
        Answer.toResponse).mapError .fault := by
  rw [step_sort hr, callObject_response heval]
  rfl

end Calls

/-- What a sort call does to the session, as its verdict says. -/
theorem step_verdict {r : Request} {clauses? : Option (List Json)} (h : r.Sorted clauses?)
    (hr : Entries.get? s.bindings name = some (.object (.request r))) {operands : Operands}
    {args : Arguments} (heval : (Operand.evalAll s.scope (some name) operands).1 = .ok args)
    (handlers : Handlers) :
    let result := s.step (.call name "sort" operands handlers)
    match sortVerdict args with
    | .read => result.session = s ∧ result.response =
        .ok (clauses?.elim (.value .null) fun clauses => .part ["sort"] (.arr clauses))
    | .store gift => result.response = .ok .self ∧ ∃ r' : Request,
        Entries.get? result.session.bindings name = some (.object (.request r')) ∧
          r'.body.held .root "sort" = some (.arr (gift.fill clauses?))
    | .ignore _ _ => result.session = s ∧ result.response = .ok .self
    | .refuse cause => result.session = s ∧ result.response = .error (.fault (.misuse cause)) := by
  intro result
  have hcall := h.call_sort args
  have hsession : result.session = _ := sort_session hr heval handlers
  have hresponse : result.response = _ := sort_response hr heval handlers
  have hstill : s.bind name (.object (.request r)) = s := bind_of_get? hr
  cases hverdict : sortVerdict args with
  | read =>
    rw [hverdict] at hcall
    obtain ⟨hstate, hanswer⟩ := hcall
    refine ⟨by rw [hsession, hstate, hstill], ?_⟩
    rw [hresponse, hanswer]
    cases clauses? <;> rfl
  | store gift =>
    rw [hverdict] at hcall
    obtain ⟨hanswer, hsorted⟩ := hcall
    refine ⟨by rw [hresponse, hanswer]; rfl, _, ?_, hsorted.held_eq⟩
    rw [hsession]
    exact Entries.get?_set_self ..
  | ignore field word =>
    rw [hverdict] at hcall
    rw [show r.call "sort" args = _ from hcall] at hsession hresponse
    exact ⟨hsession.trans hstill, hresponse⟩
  | refuse cause =>
    rw [hverdict] at hcall
    rw [show r.call "sort" args = _ from hcall] at hsession hresponse
    exact ⟨hsession.trans hstill, hresponse⟩

/-- A name with an order has the effect of the sort node of that name and order. -/
theorem step_ordered {r : Request} {clauses? : Option (List Json)} (h : r.Sorted clauses?)
    (hr : Entries.get? s.bindings name = some (.object (.request r))) (field : String)
    {order : String} (horder : lower order ∈ ["asc", "desc"]) (handlers : Handlers) :
    s.step (.call name "sort" { positional := [.plain (.str field), .plain (.str order)] }
        handlers) =
      s.step (.call name "sort" { positional := [.ordered field order] } handlers) := by
  obtain ⟨child, hcategory, hfragment, heval⟩ :=
    Operand.eval_ordered s.scope (some name) field horder
  have hpair : sortVerdict { positional := [.plain (.str field), .plain (.str order)] } =
      .store (.one (orderedClause field (lower order))) := if_pos horder
  have hnode : sortVerdict (.one (.node child)) = .store (.one child.fragment) := by
    have hclause : (Argument.node child).sortClause? = some child.fragment := if_pos hcategory
    have hfirst : (Arguments.one (.node child)).first ["order"] = .node child := rfl
    have horder : (Arguments.one (.node child)).get 1 "order" = .plain .null := rfl
    simp only [sortVerdict, hfirst, horder, Argument.isNull, Argument.items?, hclause]
    rfl
  have hcall := h.call_sort_congr (hpair.trans (hfragment ▸ hnode.symm))
  have hplain : Operand.evalAll s.scope (some name)
      { positional := [.plain (.str field), .plain (.str order)] } =
      (.ok { positional := [.plain (.str field), .plain (.str order)] }, []) := by
    simp [Operand.evalAll, Operand.evalList, Operand.eval, Operand.evalNamed, Logged.bind,
      Logged.pure]
  have hfresh : Operand.evalAll s.scope (some name) { positional := [.ordered field order] } =
      (.ok (.one (.node child)), []) := by
    simp [Operand.evalAll, Operand.evalList, heval, Operand.evalNamed, Logged.bind, Logged.pure,
      Arguments.one]
  have hobject : (Object.request r).call "sort"
      { positional := [.plain (.str field), .plain (.str order)] } =
      (Object.request r).call "sort" (.one (.node child)) :=
    congrArg (Outcome.map Object.request) hcall
  rw [step_sort hr, step_sort hr]
  simp only [callObject, hplain, hfresh, hobject]

/-! ## Programs -/

/-- The sort list of a request is the last list that was given, with the single clauses given after
it. Without a list it is the single clauses, and without any gift it is absent. What a call gives,
and whether it reads, is ignored or is refused, its arguments decide: all but a gift leave the
session as it is. A name with an order, in any letter case, has the effect of the sort node of that
name and order. -/
theorem sort_replayed (platform : Platform) (steps : List Step) (name : String) (r : Request) :
    let start : Session := { platform }
    let s := start.after steps
    let gifts := start.sortGifts name steps
    let held := r.body.held .root "sort"
    Entries.get? s.bindings name = some (.object (.request r)) →
    (∀ before items singles, gifts = before ++ .list items :: singles.map .one →
        held = some (.arr (items ++ singles))) ∧
      (∀ singles, gifts = singles.map .one → singles ≠ [] → held = some (.arr singles)) ∧
      (gifts = [] → held = none) ∧
      (∀ operands handlers args, (Operand.evalAll s.scope (some name) operands).1 = .ok args →
        let result := s.step (.call name "sort" operands handlers)
        match sortVerdict args with
        | .read => result.session = s ∧
          result.response = .ok (held.elim (.value .null) fun value => .part ["sort"] value)
        | .store _ => result.response = .ok .self
        | .ignore _ _ => result.session = s ∧ result.response = .ok .self
        | .refuse cause =>
          result.session = s ∧ result.response = .error (.fault (.misuse cause))) ∧
      ∀ field order handlers, lower order ∈ ["asc", "desc"] →
        s.step (.call name "sort" { positional := [.plain (.str field), .plain (.str order)] }
            handlers) =
          s.step (.call name "sort" { positional := [.ordered field order] } handlers) := by
  intro start s gifts held hr
  have hstart : start.Sorts name [] := fun _ hnone => by cases hnone
  have hsorted : r.Sorted (Gift.fillAll none gifts) := hstart.after steps r hr
  have hheld : held = (Gift.fillAll none gifts).map .arr := hsorted.held_eq
  refine ⟨?_, ?_, ?_, ?_, fun field order handlers horder =>
    step_ordered hsorted hr field horder handlers⟩
  · intro before items singles hgifts
    rw [hheld, hgifts, Gift.fillAll_list]
    rfl
  · intro singles hgifts hne
    rw [hheld, hgifts, Gift.fillAll_ones singles hne]
    rfl
  · intro hgifts
    rw [hheld, hgifts]
    rfl
  · intro operands handlers args heval result
    have hverdict := step_verdict hsorted hr heval handlers
    rw [hheld]
    cases hv : sortVerdict args with
    | read =>
      rw [hv] at hverdict
      refine ⟨hverdict.1, hverdict.2.trans ?_⟩
      cases Gift.fillAll none gifts <;> rfl
    | store gift =>
      rw [hv] at hverdict
      exact hverdict.1
    | ignore | refuse =>
      rw [hv] at hverdict
      exact hverdict

/-- A request that is sorted by a clause that changes between the calls, with a list that is refused
and an order that is ignored. -/
def mixedSorts : List Step :=
  [.build .request "r" {}, .build .sort "s" { positional := [.plain (.str "price")] },
    .call "r" "sort" { positional := [.plain (.str "name")] } {},
    .call "r" "sort" { positional := [.list [.ref "s", .plain (.str "_score")]] } {},
    .call "s" "mode" { positional := [.plain (.str "avg")] } {},
    .call "r" "sort" { positional := [.list [.plain (.str "rank"), .plain (.int 5)]] } {},
    .call "r" "sort" { positional := [.ref "s"] } {},
    .call "r" "sort" { positional := [.plain (.str "date"), .plain (.str "DESC")] } {},
    .call "r" "sort" { positional := [.plain (.str "date"), .plain (.str "up")] } {}]

theorem mixedSorts_sort_replayed :
    ∃ r, Entries.get? (({} : Session).after mixedSorts).bindings "r" =
        some (.object (.request r)) ∧
      r.body.held .root "sort" = some (.arr [.obj [("price", .obj [])], .str "_score",
        .obj [("price", .obj [("mode", .str "avg")])],
        .obj [("date", .obj [("order", .str "desc")])]]) := by
  refine ⟨_, rfl, ?_⟩
  exact (sort_replayed {} mixedSorts "r" _ rfl).1 [.one (.str "name")]
    [.obj [("price", .obj [])], .str "_score"]
    [.obj [("price", .obj [("mode", .str "avg")])], orderedClause "date" "desc"] rfl

end Session

end SearchBuilder
