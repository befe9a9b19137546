import SearchBuilder.Proofs.Document.Insertion
import SearchBuilder.Proofs.Session.Refusal
import SearchBuilder.Proofs.Session.Sections

/-!
# Insertions in a session

In every reachable session, an accepted call with a single node appends it to the list slot of the
method, and an accepted aggregation is merged into the aggregations. What is stored is the fragment
that the argument has once the slot is begun. It is the fragment from before the call, except when
an object begins a slot with itself (`Session.insertion_stored`).
-/

namespace SearchBuilder

/-! ## Methods -/

namespace Kind

/-- The methods that fill list slots are neither about the target of a request nor searches. -/
theorem slot_methods (k : Kind) : ∀ entry ∈ k.methods, entry.2.listSlot? ≠ none →
    Entries.get? Request.targetMethods entry.1 = none ∧ entry.1 ≠ "do_search" := by
  cases k with
  | query k => cases k <;> decide
  | filter k => cases k <;> decide
  | score k => cases k <;> decide
  | aggregation k => cases k <;> decide
  | facet k => cases k <;> decide
  | suggester k => cases k <;> decide
  | _ => decide

theorem slot_methods_of_fills {k : Kind} {place : Place} {key method : String}
    (h : k.fills place key method = true) :
    Entries.get? Request.targetMethods method = none ∧ method ≠ "do_search" := by
  obtain ⟨expected, hop⟩ := exists_of_fills h
  exact k.slot_methods _ (Entries.mem_of_get? hop) (Option.some_ne_none (place, key))

/-- All that aggregations can be added to has a section for them. -/
theorem aggs_methods (k : Kind) : ∀ entry ∈ k.methods,
    Entries.get? sectionMethods entry.1 = some "aggs" → "aggs" ∈ k.namedSections := by
  cases k with
  | query k => cases k <;> decide
  | filter k => cases k <;> decide
  | score k => cases k <;> decide
  | aggregation k => cases k <;> decide
  | facet k => cases k <;> decide
  | suggester k => cases k <;> decide
  | _ => decide

end Kind

/-! ## Objects -/

namespace Object

variable {o : Object} {method key : String} {args : Arguments}

/-- All sections of an object that are there are objects. -/
def HasSections (o : Object) : Prop := ∀ key ∈ o.kind.namedSections, o.toNode.HasSection key

/-- Calls keep the sections of an object. -/
theorem HasSections.call (h : o.HasSections) (method : String) (args : Arguments) :
    (o.call method args).state.HasSections := by
  intro key hkey
  rw [o.call_kind] at hkey
  rcases o.call_cases method args with ⟨hstate, -⟩ | ⟨hstate, -⟩
  · rw [hstate]
    exact (h key hkey).call hkey method args
  · rw [hstate]
    exact h key hkey

theorem build_hasSections (k : Kind) (args : Arguments) :
    (Object.build k args).state.HasSections := by
  intro key hkey
  rw [Object.build_kind] at hkey
  cases k with
  | request =>
    change (Request.build args).state.body.HasSection key
    rw [Request.build_body]
    exact Kind.build_hasSection hkey args
  | aggregation k => exact Kind.build_hasSection hkey args
  | _ => cases hkey

theorem hasSections_keeps :
    Discipline.free.Keeps HasSections (fun _ => True) (fun _ => True) where
  uses := fun _ _ => trivial
  view := fun _ _ => trivial
  build := fun k args _ _ => ⟨fun _ _ => build_hasSections k args, fun _ _ => trivial⟩
  call := fun _ method args ho _ _ => ⟨ho.call method args, fun _ _ => trivial⟩

/-- A call that is accepted for one item appends it to what the slot holds. -/
theorem call_appends {place : Place} (hfills : o.kind.fills place key method = true)
    (hsingle : args.first.items? = none)
    (haccepted : (o.call method args).answer = .ok .self) :
    ∃ (items? : Option (List Json)) (stored : Json),
      o.toNode.look (.option place key) = some (items?.map .arr) ∧
        (o.call method args).state.toNode.look (.option place key) =
          some (some (.arr (items?.getD [] ++ [stored]))) ∧
        args.first.IsStored o.toNode (.option place key) (.arr []) stored := by
  rcases o.call_cases method args with ⟨hstate, hanswer⟩ | ⟨-, htarget⟩
  · rw [hstate]
    exact Node.call_appends hfills hsingle (hanswer ▸ haccepted)
  · exact absurd (Kind.slot_methods_of_fills hfills).1 htarget

/-- A call that is accepted for an aggregation merges it into the section. -/
theorem call_merges (h : o.HasSections)
    (hmethod : Entries.get? sectionMethods method = some "aggs")
    (haccepted : (o.call method args).answer = .ok .self) :
    let s : Spot := .option o.kind.sectionPlace "aggs"
    ∃ (members? : Option (Entries Json)) (additions : Entries Json),
      o.toNode.look s = some (members?.map .obj) ∧
        (o.call method args).state.toNode.look s =
          some (some (.obj (Entries.merge (members?.getD []) additions))) ∧
        args.first.IsStored o.toNode s .empty (.obj additions) := by
  intro s
  rcases o.call_cases method args with ⟨hstate, hanswer⟩ | ⟨-, htarget⟩
  · rw [hanswer] at haccepted
    rw [hstate]
    have hkey : "aggs" ∈ o.kind.namedSections := by
      cases hop : Entries.get? o.toNode.kind.methods method with
      | none =>
        simp only [Node.call, hop] at haccepted
        cases haccepted
      | some op => exact o.kind.aggs_methods _ (Entries.mem_of_get? hop) hmethod
    exact (h _ hkey).call_merges hkey hmethod haccepted
  · exact absurd hmethod (ne_sectionMethods htarget "aggs")

end Object

/-! ## Sessions -/

namespace Session

variable {s : Session} {name method : String} {o : Object} {operands : Operands}
  {args : Arguments}

/-- What the object under a name holds at a spot, if all on the way there are objects. -/
def holds (s : Session) (name : String) (spot : Spot) : Option (Option Json) :=
  match Entries.get? s.bindings name with
  | some (.object o) => o.toNode.look spot
  | _ => none

theorem holds_of_object (ho : Entries.get? s.bindings name = some (.object o)) (spot : Spot) :
    s.holds name spot = o.toNode.look spot := by
  unfold holds
  rw [ho]

/-- A call that is no search is a call on the object. -/
theorem step_object (ho : Entries.get? s.bindings name = some (.object o))
    (hmethod : method ≠ "do_search") (operands : Operands) (handlers : Handlers) :
    s.step (.call name method operands handlers) = s.callObject name o method operands := by
  cases o with
  | node n => exact step_node ho method handlers
  | request r => simp only [step, call, ho, if_neg hmethod]

/-- An accepted call that is no search is an accepted call on the object. -/
theorem step_accepted (ho : Entries.get? s.bindings name = some (.object o))
    (hmethod : method ≠ "do_search") {handlers : Handlers}
    (heval : (Operand.evalAll s.scope (some name) operands).1 = .ok args)
    (haccepted : (s.step (.call name method operands handlers)).response = .ok .self) :
    (o.call method args).answer = .ok .self ∧ ∀ spot,
      (s.step (.call name method operands handlers)).session.holds name spot =
        (o.call method args).state.toNode.look spot := by
  rw [step_object ho hmethod] at haccepted ⊢
  refine ⟨(callObject_self_iff heval).1 haccepted, fun spot => ?_⟩
  rw [callObject_session heval]
  exact holds_of_object (Entries.get?_set_self _ _ _) spot

/-- The one operand of a call, by position or under whatever name. -/
theorem first_ref {other : String} {b : Object}
    (hb : Entries.get? s.bindings other = some (.object b))
    (hoperands : operands = { positional := [.ref other] } ∨
      ∃ label, operands = { named := [(label, .ref other)] })
    (heval : (Operand.evalAll s.scope (some name) operands).1 = .ok args) :
    args.first = if name = other then .receiver else .node b.toChild := by
  have hlook : s.scope.look (some name) other =
      some (if name = other then .receiver else .node b.toChild) := by
    simp only [scope, look, hb, Option.map_some, Option.some.injEq]
  rcases hoperands with rfl | ⟨label, rfl⟩
  · simp only [Operand.evalAll, Operand.evalList, Operand.evalNamed, Operand.eval, hlook] at heval
    cases heval
    rfl
  · simp only [Operand.evalAll, Operand.evalList, Operand.evalNamed, Operand.eval, hlook] at heval
    cases heval
    rfl

/-- An accepted single node is appended to the list slot of the method, and an accepted aggregation
is merged into the aggregations, in every reachable session. What is stored of another object is its
fragment from before the call. An object that begins a slot with itself is stored with the slot
begun. -/
theorem insertion_stored (platform : Platform) (steps : List Step) (name method : String)
    (o : Object) (operands : Operands) (handlers : Handlers) (args : Arguments) :
    let s := ({ platform } : Session).after steps
    let result := s.step (.call name method operands handlers)
    Entries.get? s.bindings name = some (.object o) →
    (Operand.evalAll s.scope (some name) operands).1 = .ok args →
    result.response = .ok .self →
    (∀ place key, o.kind.fills place key method = true → args.first.items? = none →
        ∃ (items? : Option (List Json)) (stored : Json),
          s.holds name (.option place key) = some (items?.map .arr) ∧
          result.session.holds name (.option place key) =
            some (some (.arr (items?.getD [] ++ [stored]))) ∧
          args.first.IsStored o.toNode (.option place key) (.arr []) stored) ∧
      (Entries.get? sectionMethods method = some "aggs" →
        ∃ (members? : Option (Entries Json)) (additions : Entries Json),
          s.holds name (.option o.kind.sectionPlace "aggs") = some (members?.map .obj) ∧
          result.session.holds name (.option o.kind.sectionPlace "aggs") =
            some (some (.obj (Entries.merge (members?.getD []) additions))) ∧
          args.first.IsStored o.toNode (.option o.kind.sectionPlace "aggs") .empty
            (.obj additions)) ∧
      ∀ other b, Entries.get? s.bindings other = some (.object b) →
        (operands = { positional := [.ref other] } ∨
          ∃ label, operands = { named := [(label, .ref other)] }) →
        args.first.snapshot o.toNode = b.fragment ∧ (args.first = .receiver ↔ other = name) := by
  intro s result ho heval haccepted
  have hsections : o.HasSections :=
    Object.hasSections_keeps.after steps (all_start platform _) (obeys_free steps _) name o ho
  refine ⟨?_, ?_, ?_⟩
  · intro place key hfills hsingle
    have hsearch := (Kind.slot_methods_of_fills hfills).2
    obtain ⟨hself, hafter⟩ := step_accepted ho hsearch heval haccepted
    rw [holds_of_object ho, hafter]
    exact Object.call_appends hfills hsingle hself
  · intro hmethod
    have hsearch : method ≠ "do_search" := by
      rintro rfl
      exact absurd hmethod (by decide)
    obtain ⟨hself, hafter⟩ := step_accepted ho hsearch heval haccepted
    rw [holds_of_object ho, hafter]
    exact Object.call_merges hsections hmethod hself
  · intro other b hb hoperands
    rw [first_ref hb hoperands heval]
    by_cases hname : name = other
    · subst hname
      obtain rfl : o = b := Binding.object.inj (Option.some.inj (ho.symm.trans hb))
      rw [if_pos rfl]
      exact ⟨rfl, fun _ => rfl, fun _ => rfl⟩
    · rw [if_neg hname]
      exact ⟨rfl, nofun, fun heq => absurd heq.symm hname⟩

/-- A query that is put into itself is stored with the empty list that it is put into. -/
theorem insertion_stored_self :
    let s := ({} : Session).after [.build (.query .bool) "q" {}]
    let result := s.step (.call "q" "must" { positional := [.ref "q"] } {})
    result.response = .ok .self ∧
      ∃ q, Entries.get? s.bindings "q" = some (.object (.node q)) ∧
        q.fragment = .obj [("bool", .empty)] ∧ ∃ stored, stored ≠ q.fragment ∧
          result.session.holds "q" (.option .body "must") = some (some (.arr [stored])) ∧
          stored = .obj [("bool", .obj [("must", .arr [])])] := by
  intro s result
  let q : Node := .envelope (.query .bool) "bool" []
  have hq : Entries.get? s.bindings "q" = some (.object (.node q)) := rfl
  refine ⟨rfl, q, hq, rfl, ?_⟩
  obtain ⟨hlists, -, -⟩ := insertion_stored {} [.build (.query .bool) "q" {}] "q"
    "must" (.node q) { positional := [.ref "q"] } {} (.one .receiver) hq rfl rfl
  obtain ⟨items?, stored, hbefore, hafter, hstored⟩ := hlists .body "must" (by decide) rfl
  have habsent : q.look (.option .body "must") = some none := rfl
  have hitems : items? = none := by
    rw [holds_of_object hq] at hbefore
    cases items? with
    | none => rfl
    | some items => cases hbefore
  subst hitems
  exact ⟨stored, fun hsame => hstored.same_iff.1 hsame rfl habsent, hafter, hstored.eq⟩

end Session

end SearchBuilder
