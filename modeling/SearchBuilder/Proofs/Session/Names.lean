import SearchBuilder.Proofs.Document.Names
import SearchBuilder.Proofs.Session.Insertion
import SearchBuilder.Proofs.Session.Refusal

/-!
# Lists of names in a session

In every session that a program reaches, each list of names is absent or a list of texts, and what
is neither a text nor a list of texts is refused and changes nothing. The fields of a query string
are the exception: any list is stored there as it is (`Session.names_stored`).
-/

namespace SearchBuilder

/-! ## Objects -/

namespace Object

/-- The node of a new object is what is built for the kind. -/
theorem build_toNode (k : Kind) (args : Arguments) :
    (Object.build k args).state.toNode = (k.build args).state := by
  cases k with
  | request => exact Request.build_body args
  | _ => rfl

theorem holdsNames_keeps :
    Discipline.free.Keeps (fun o => o.toNode.HoldsNames) (fun _ => True) (fun _ => True) where
  uses := fun _ _ => trivial
  view := fun _ _ => trivial
  build := by
    refine fun k args _ _ => ⟨fun _ _ => ?_, fun _ _ => trivial⟩
    rw [build_toNode]
    exact Node.build_holdsNames k args
  call := by
    refine fun o method args ho _ _ => ⟨?_, fun _ _ => trivial⟩
    rcases o.call_cases method args with ⟨hstate, -⟩ | ⟨hstate, -⟩
    · exact hstate ▸ ho.call method args
    · exact hstate ▸ ho

/-- A call that is not about the target of a request is refused if the node refuses it. -/
theorem call_refused {o : Object} {method : String} {args : Arguments} {cause : Misuse}
    (htarget : Entries.get? Request.targetMethods method = none)
    (h : o.toNode.call method args = .refused o.toNode cause) :
    o.call method args = .refused o cause := by
  cases o with
  | node n => exact congrArg (Outcome.map node) h
  | request r =>
    simp only [call, Request.call, htarget]
    exact congrArg (fun outcome => (outcome.map fun n => { r with body := n }).map request) h

end Object

/-! ## Sessions -/

/-- A step blames an argument and leaves the session as it was. -/
structure StepResult.Refuses (result : StepResult) (s : Session) (cause : Misuse) : Prop where
  response : result.response = .error (.fault (.misuse cause))
  session : result.session = s

namespace Session

variable {s : Session} {name method : String} {o : Object} {operands : Operands}
  {args : Arguments}

/-- A call that the object refuses leaves the session. -/
theorem step_refused (ho : Entries.get? s.bindings name = some (.object o))
    (hmethod : method ≠ "do_search")
    (heval : (Operand.evalAll s.scope (some name) operands).1 = .ok args) {cause : Misuse}
    (h : o.call method args = .refused o cause) (handlers : Handlers) :
    (s.step (.call name method operands handlers)).Refuses s cause := by
  rw [step_object ho hmethod]
  refine ⟨?_, ?_⟩
  · rw [callObject_response heval, h]
    rfl
  · rw [callObject_session heval, h]
    exact bind_of_get? ho

/-- In every reachable session each list of names is absent or a list of texts, and a setter that is
given something else refuses it and changes nothing. This holds of the fields of a query string only
as far as these are a list: whatever is in the list that is given is stored. -/
theorem names_stored (platform : Platform) (steps : List Step) (name : String) (o : Object) :
    let s := ({ platform } : Session).after steps
    Entries.get? s.bindings name = some (.object o) →
    (∀ m ∈ nameSetters, o.kind = m.kind → m.slot.check.Holds (o.toNode.look m.slot.spot)) ∧
      (o.kind = .highlight → ∀ key ∈ tagKeys, ∀ field value,
        o.toNode.fragment.part? (Node.highlightPath key field) = some value →
          ∃ names, value = .ofStrings names) ∧
      ∀ operands handlers args, (Operand.evalAll s.scope (some name) operands).1 = .ok args →
        let result (method : String) := s.step (.call name method operands handlers)
        (∀ m ∈ nameSetters, o.kind = m.kind → args.first.isNull = false →
            m.slot.check.passes args.first = false → (result m.method).Refuses s m.slot.blame) ∧
          (∀ key ∈ tagKeys, o.kind = .highlight → (args.first ["field"]).isNull = false →
            (args.first ["field"]).names? = none → (result key).Refuses s (.notNames key)) ∧
          ∀ items, o.kind = .query .queryString → args.first.items? = some items →
            (result "fields").response = .ok .self ∧
              (result "fields").session.holds name (.option .body "fields") =
                some (some (.arr (items.map (·.toJson o.toNode)))) := by
  intro s ho
  have hnames : o.toNode.HoldsNames :=
    Object.holdsNames_keeps.after steps (all_start platform _) (obeys_free steps _) name o ho
  have hholds : ∀ m ∈ nameSetters, o.kind = m.kind →
      m.slot.check.Holds (o.toNode.look m.slot.spot) :=
    fun m hm hkind => (hnames.lists m hm hkind).holds m hm hkind
  refine ⟨hholds, fun hkind key hkey field value => (hnames.tags hkind).part? hkey field, ?_⟩
  intro operands handlers args heval result
  refine ⟨fun m hm hkind hgiven hfails => ?_, fun key hkey hkind hgiven hfails => ?_, ?_⟩
  · obtain ⟨op, -, -, htarget, hsearch⟩ := NameSetter.exists_operation hm
    have hcall := Node.call_names_refused hm hkind hgiven hfails
    exact step_refused ho hsearch heval (Object.call_refused htarget hcall) handlers
  · have htable : ∀ key ∈ tagKeys,
        Entries.get? Request.targetMethods key = none ∧ key ≠ "do_search" := by decide
    obtain ⟨htarget, hsearch⟩ := htable key hkey
    have hcall := Node.call_tags_refused hkind hkey hgiven hfails
    exact step_refused ho hsearch heval (Object.call_refused htarget hcall) handlers
  · intro items hkind hitems
    have hheld := hholds ⟨.query .queryString, "fields", ⟨.option .body "fields", .list,
      .notFieldList⟩⟩ (by decide) hkind
    obtain ⟨hself, hstored⟩ := Operation.run_fieldList_items hheld hitems
    have hmethod : Entries.get? o.toNode.kind.methods "fields" = some (.field .fieldList) := by
      rw [show o.toNode.kind = .query .queryString from hkind]
      decide
    have hrun : o.toNode.call "fields" args = (Operation.field .fieldList).run o.toNode args := by
      simp only [Node.call, hmethod]
    rcases o.call_cases "fields" args with ⟨hstate, hanswer⟩ | ⟨-, htarget⟩
    · have haccepted : (result "fields").response = .ok .self := by
        rw [show result "fields" = _ from step_object ho (by decide) operands handlers,
          callObject_self_iff heval, hanswer, hrun, hself]
      refine ⟨haccepted, ?_⟩
      rw [(step_accepted ho (by decide) heval haccepted).2, hstate, hrun, hstored]
    · exact absurd (by decide) htarget

/-- A list of a number as the fields of a query string and of a match against several fields. -/
theorem names_stored_number :
    let s := ({} : Session).after
      [.build (.query .queryString) "q" { positional := [.plain (.str "a")] },
        .build (.query .multiField) "m" { positional := [.plain (.str "f"), .plain (.str "a")] }]
    let result (name : String) :=
      s.step (.call name "fields" { positional := [.plain (.arr [.int 5])] } {})
    ((result "q").response = .ok .self ∧
        (result "q").session.holds "q" (.option .body "fields") =
          some (some (.arr [.int 5]))) ∧
      (result "m").Refuses s (.notNames "fields") ∧
        NameCheck.texts.Holds (s.holds "m" (.option .body "fields")) := by
  intro s result
  let q : Node := .envelope (.query .queryString) "query_string" [("query", .str "a")]
  let m : Node := .envelope (.query .multiField) "multi_match"
    [("query", .str "a"), ("fields", .ofStrings ["f"])]
  have hq : Entries.get? s.bindings "q" = some (.object (.node q)) := rfl
  have hm : Entries.get? s.bindings "m" = some (.object (.node m)) := rfl
  let operands : Operands := { positional := [.plain (.arr [.int 5])] }
  let args : Arguments := .one (.plain (.arr [.int 5]))
  obtain ⟨-, -, hcalls⟩ := names_stored {} _ "q" (.node q) hq
  obtain ⟨hholds, -, hcalls'⟩ := names_stored {} _ "m" (.node m) hm
  obtain ⟨-, -, hstored⟩ := hcalls operands {} args rfl
  obtain ⟨hrefused, -, -⟩ := hcalls' operands {} args rfl
  have hsetter : ⟨.query .multiField, "fields", ⟨.option .body "fields", .texts,
    .notNames "fields"⟩⟩ ∈ nameSetters := List.mem_cons_self
  refine ⟨hstored [.plain (.int 5)] rfl rfl, hrefused _ hsetter rfl rfl rfl, ?_⟩
  rw [holds_of_object hm]
  exact hholds _ hsetter rfl

end Session

end SearchBuilder
