import SearchBuilder.Proofs.Document.Refusal
import SearchBuilder.Proofs.Session.Discipline

/-!
# Refused calls

A call that blames an argument leaves the whole session as it was, but for one method: fields that
are neither a text nor a list of texts begin the fields of a highlight that has none
(`Session.refused_call`).
-/

namespace SearchBuilder

open Outcome

/-! ## Nodes -/

/-- Only one method of highlights begins a list of fields. -/
theorem Kind.fields_methods (k : Kind) : ∀ entry ∈ k.methods,
    entry.2 = .highlight .fields → k = .highlight ∧ entry.1 = "fields" := by
  cases k with
  | query k => cases k <;> decide
  | filter k => cases k <;> decide
  | score k => cases k <;> decide
  | aggregation k => cases k <;> decide
  | facet k => cases k <;> decide
  | suggester k => cases k <;> decide
  | _ => decide

/-- A call gives a highlight that has no fields something that names no fields. -/
structure Node.BeginsFields (n : Node) (method : String) (args : Arguments)
    (members : Entries Json) : Prop where
  kind : n.kind = .highlight
  method : method = "fields"
  fragment : n.fragment = .obj members
  absent : Entries.get? members "fields" = none
  given : (args.first ["field"]).isNull = false
  nameless : (args.first ["field"]).names? = none

namespace Node

/-- The highlight with its fields begun. -/
def withFields (n : Node) (members : Entries Json) : Node :=
  { n with fragment := .obj (members ++ [("fields", .empty)]) }

/-- A list of fields that is refused leaves the fields behind that were begun for it. -/
theorem BeginsFields.call {n : Node} {method : String} {args : Arguments}
    {members : Entries Json} (h : n.BeginsFields method args members) :
    n.call method args = .refused (n.withFields members) (.notNames "fields") := by
  have hmethod : Entries.get? n.kind.methods method = some (.highlight .fields) := by
    rw [h.kind, h.method]
    decide
  have hopen : n.openSlot .root "fields" .empty = .ok (n.withFields members) := by
    simp only [openSlot, valueAt, h.fragment, Json.members?, replace, withFields]
    rw [Entries.setDefault_of_absent h.absent, Entries.set_of_absent h.absent]
  simp only [Node.call, hmethod]
  exact HighlightMethod.fields_refused hopen h.given h.nameless

/-- Fields that are there already are left as they are. -/
theorem openSlot_of_get? {n opened : Node} {members : Entries Json} {key : String} {value : Json}
    (hfragment : n.fragment = .obj members) (hvalue : Entries.get? members key = some value)
    {start : Json} (h : n.openSlot .root key start = .ok opened) : opened = n := by
  simp only [openSlot, valueAt, hfragment, Json.members?, replace,
    Entries.setDefault_of_get? hvalue] at h
  cases h
  rw [← hfragment]

/-- A refused call leaves the node as it was, unless it begins fields. -/
theorem call_atomic {n : Node} {method : String} {args : Arguments}
    (h : ∀ members, ¬ n.BeginsFields method args members) : (n.call method args).Atomic n := by
  unfold call
  split
  case h_2 => exact failed_atomic n _
  case h_1 op hop =>
    by_cases hfields : op = .highlight .fields
    · subst hfields
      obtain ⟨hkind, hmethod⟩ := n.kind.fields_methods _ (Entries.mem_of_get? hop) rfl
      intro cause hcause
      obtain ⟨hgiven, hnames, opened, hopen⟩ :=
        HighlightMethod.exists_of_fields_misuse hcause
      have hstate : (HighlightMethod.fields.run n args).state = opened := by
        rw [HighlightMethod.fields_refused hopen hgiven hnames]
        rfl
      obtain ⟨members, hmembers⟩ : ∃ members, n.fragment = .obj members := by
        unfold openSlot at hopen
        split at hopen
        · next members hmembers => exact ⟨members, Json.eq_obj_of_members? hmembers⟩
        · cases hopen
      -- Fields that are there are not begun anew, so only a missing list makes a difference.
      cases hvalue : Entries.get? members "fields" with
      | none => exact absurd ⟨hkind, hmethod, hmembers, hvalue, hgiven, hnames⟩ (h members)
      | some value => exact hstate.trans (openSlot_of_get? hmembers hvalue hopen)
    · exact Operation.run_atomic hfields n args

end Node

/-! ## Requests -/

namespace Request

/-- A parameter is set, or nothing happens. -/
theorem runParam_atomic (r : Request) (a : Accessor) (v : Argument) :
    (r.runParam a v).Atomic r := by
  intro cause hcause
  have hanswer : (a.run r.paramsNode v).answer = .error (.misuse cause) := by
    simp only [runParam] at hcause
    cases hrun : (a.run r.paramsNode v).answer with
    | error fault =>
      rw [hrun] at hcause
      exact congrArg Except.error (Except.error.inj hcause)
    | ok answer =>
      rw [hrun] at hcause
      cases hcause
  simp only [runParam, a.run_atomic r.paramsNode v cause hanswer]
  rfl

end Request

/-- A target is set, or nothing happens. -/
theorem TargetMethod.run_atomic (m : TargetMethod) (r : Request) (args : Arguments) :
    (m.run r args).Atomic r := by
  cases m with
  | indices | types | routing =>
    simp only [run]
    split
    · exact value_atomic r _
    · split
      · exact (chained_blameless _).atomic r
      · exact refused_atomic r _
  | searchType | preference => exact r.runParam_atomic _ _
  | path => exact atomic_of_state rfl

/-- The body of a request is no highlight, so no call on it begins fields. -/
theorem Request.call_atomic {r : Request} (hbody : r.body.kind ≠ .highlight) (method : String)
    (args : Arguments) : (r.call method args).Atomic r := by
  unfold call
  split
  · exact TargetMethod.run_atomic _ r args
  · exact (r.body.call_atomic fun _ h => hbody h.kind).map fun n => { r with body := n }

/-! ## Sessions -/

/-- What a session knows of its requests: their bodies are bodies of requests. -/
def Object.HasRequestBody : Object → Prop
  | .node _ => True
  | .request r => r.body.kind = .request

namespace Object

theorem hasRequestBody_of_kind {o : Object} (h : ∀ r, o = .request r → o.kind = .request) :
    o.HasRequestBody := by
  cases o with
  | node n => trivial
  | request r => exact h r rfl

theorem call_isRequest {o : Object} {method : String} {args : Arguments} {r : Request}
    (h : (o.call method args).state = .request r) : ∃ r', o = .request r' := by
  cases o with
  | node n => cases h
  | request r' => exact ⟨r', rfl⟩

theorem build_isRequest {k : Kind} {args : Arguments} {r : Request}
    (h : (Object.build k args).state = .request r) : k = .request := by
  cases k <;> first | rfl | cases h

end Object

/-- No step builds a request with another body or gives it one. -/
theorem hasRequestBody_keeps :
    Discipline.free.Keeps Object.HasRequestBody (fun _ => True) (fun _ => True) where
  uses := fun _ _ => trivial
  view := fun _ _ => trivial
  build := by
    refine fun k args _ _ => ⟨fun _ _ => ?_, fun _ _ => trivial⟩
    refine Object.hasRequestBody_of_kind fun r hr => ?_
    rw [Object.build_kind, Object.build_isRequest hr]
  call := by
    refine fun o method args ho _ _ => ⟨?_, fun _ _ => trivial⟩
    refine Object.hasRequestBody_of_kind fun r hr => ?_
    obtain ⟨r', rfl⟩ := Object.call_isRequest hr
    rw [Object.call_kind]
    exact ho

namespace Session

/-- A call begins the fields of the highlight `n` under a name. -/
structure BeginsFields (s : Session) (name method : String) (operands : Operands) (n : Node)
    (members : Entries Json) : Prop where
  bound : Entries.get? s.bindings name = some (.object (.node n))
  begins : ∃ args, (Operand.evalAll s.scope (some name) operands).1 = .ok args ∧
    n.BeginsFields method args members

/-- Binding a name again to what it stands for changes nothing. -/
theorem bind_of_get? {s : Session} {name : String} {b : Binding}
    (h : Entries.get? s.bindings name = some b) : s.bind name b = s := by
  rw [Session.bind, Entries.set_of_get? h]

theorem BeginsFields.bind_ne {s : Session} {name method : String} {operands : Operands} {n : Node}
    {members : Entries Json} (h : s.BeginsFields name method operands n members) :
    s.bind name (.object (.node (n.withFields members))) ≠ s := by
  intro heq
  have hget := congrArg (fun s : Session => Entries.get? s.bindings name) heq
  simp only [Session.bind, Entries.get?_set_self, h.bound, Option.some.injEq, Binding.object.injEq,
    Object.node.injEq] at hget
  obtain ⟨args, -, hbegins⟩ := h.begins
  have hfragment := congrArg Node.fragment hget
  rw [hbegins.fragment] at hfragment
  have hlength := congrArg List.length (Json.obj.inj hfragment)
  simp at hlength

/-- A refused call on an object leaves the session as it was, unless it begins fields. -/
theorem callObject_refused {s : Session} {name method : String} {o : Object} {operands : Operands}
    (ho : Entries.get? s.bindings name = some (.object o)) (hbody : o.HasRequestBody)
    {cause : Misuse}
    (h : (s.callObject name o method operands).response = .error (.fault (.misuse cause))) :
    (∃ n members, s.BeginsFields name method operands n members ∧
      (s.callObject name o method operands).session =
        s.bind name (.object (.node (n.withFields members)))) ∨
      (s.callObject name o method operands).session = s := by
  cases heval : (Operand.evalAll s.scope (some name) operands).1 with
  | error e =>
    -- An operand was refused, so the call was not made.
    refine .inr ?_
    unfold callObject
    cases hpair : Operand.evalAll s.scope (some name) operands with
    | mk result notices =>
      rw [hpair] at heval
      rw [show result = .error e from heval]
  | ok args =>
    have hmisuse := callObject_misuse heval h
    rw [callObject_session heval]
    cases o with
    | node n =>
      by_cases hbegins : ∃ members, n.BeginsFields method args members
      · obtain ⟨members, hmembers⟩ := hbegins
        refine .inl ⟨n, members, ⟨ho, args, heval, hmembers⟩, ?_⟩
        simp only [Object.call, hmembers.call]
        rfl
      · refine .inr ?_
        have hatomic : (n.call method args).Atomic n :=
          n.call_atomic fun members hmembers => hbegins ⟨members, hmembers⟩
        rw [show ((Object.node n).call method args).state = .node n from
          hatomic.map Object.node cause hmisuse]
        exact bind_of_get? ho
    | request r =>
      refine .inr ?_
      have hkind : r.body.kind ≠ .highlight := by
        rw [show r.body.kind = .request from hbody]
        exact Kind.noConfusion
      have hatomic := (Request.call_atomic hkind method args).map Object.request
      rw [show ((Object.request r).call method args).state = .request r from hatomic cause hmisuse]
      exact bind_of_get? ho

/-- A search blames no argument. -/
theorem search_ne_misuse (s : Session) (hs : s.All Object.HasRequestBody) {r : Request}
    (hr : Object.HasRequestBody (.request r)) (named : Option Operand) (handlers : Handlers)
    (cause : Misuse) :
    (s.search r named handlers).response ≠ .error (.fault (.misuse cause)) := by
  have hmeets : (s.search r named handlers).Meets Object.HasRequestBody
      (Fault.Arises s.platform.digits Object.HasRequestBody fun _ => False) :=
    Discipline.Keeps.search hs hr named handlers
  intro hmisuse
  obtain hnever | ⟨_, _, -, -, hfault⟩ := hmeets.admitted _ hmisuse
  · exact hnever
  · cases hfault

/-- A call on a client fails for reasons of its own. -/
theorem callClient_ne_fault (s : Session) (id : Nat) (client : Client) (method : String)
    (args : Arguments) (handlers : Handlers) (fault : Fault) :
    (s.callClient id client method args handlers).response ≠ .error (.fault fault) := by
  have hmeets : (s.callClient id client method args handlers).Meets (fun _ => True)
      fun _ => False :=
    Discipline.Keeps.callClient (fun _ _ _ => trivial) id client method args handlers
  exact hmeets.admitted fault

/-- A refused call leaves the session as it was, unless it begins fields. -/
theorem call_refused {s : Session} (hs : s.All Object.HasRequestBody) {name method : String}
    {operands : Operands} {handlers : Handlers} {cause : Misuse}
    (h : (s.call name method operands handlers).response = .error (.fault (.misuse cause))) :
    (∃ n members, s.BeginsFields name method operands n members ∧
      (s.call name method operands handlers).session =
        s.bind name (.object (.node (n.withFields members)))) ∨
      (s.call name method operands handlers).session = s := by
  unfold call at h ⊢
  cases hbinding : Entries.get? s.bindings name with
  | none =>
    rw [hbinding] at h
    cases h
  | some b =>
    rw [hbinding] at h
    cases b with
    | object o =>
      have hbody := hs name o hbinding
      cases o with
      | node n => exact callObject_refused hbinding hbody h
      | request r =>
        dsimp only at h ⊢
        split at h
        · exact absurd h (s.search_ne_misuse hs hbody _ handlers _)
        · next hsearch =>
          rw [if_neg hsearch]
          exact callObject_refused hbinding hbody h
    | client id =>
      dsimp only at h ⊢
      split at h
      · cases h
      · exact .inr rfl
      · exact absurd h (s.callClient_ne_fault id _ method _ handlers _)

/-- In every reachable session a refused call changes nothing at all, except that it begins the
fields of a highlight that has none when it is given something that names no fields. -/
theorem refused_call (platform : Platform) (steps : List Step) (name method : String)
    (operands : Operands) (handlers : Handlers) (cause : Misuse) :
    let s := ({ platform } : Session).after steps
    let result := s.step (.call name method operands handlers)
    result.response = .error (.fault (.misuse cause)) →
      (result.session = s ↔ ¬ ∃ n members, s.BeginsFields name method operands n members) ∧
        ∀ n members, s.BeginsFields name method operands n members →
          result.session = s.bind name (.object (.node (n.withFields members))) := by
  intro s result h
  have hs : s.All Object.HasRequestBody :=
    hasRequestBody_keeps.after steps (all_start platform _) (obeys_free steps _)
  have hbegun : ∀ n members, s.BeginsFields name method operands n members →
      result.session = s.bind name (.object (.node (n.withFields members))) := by
    intro n members hbegins
    obtain ⟨args, heval, hnode⟩ := hbegins.begins
    have hcall : s.step (.call name method operands handlers) =
        s.callObject name (.node n) method operands := by
      simp only [Session.step, Session.call, hbegins.bound]
    simp only [result, hcall, callObject_session heval, Object.call, hnode.call]
    rfl
  refine ⟨⟨?_, ?_⟩, hbegun⟩
  · rintro hsame ⟨n, members, hbegins⟩
    exact hbegins.bind_ne ((hbegun n members hbegins).symm.trans hsame)
  · intro hnot
    rcases call_refused hs h with ⟨n, members, hbegins, -⟩ | hsame
    · exact absurd ⟨n, members, hbegins⟩ hnot
    · exact hsame

/-- A number names no fields, so a new highlight to which it is given has its fields begun. -/
theorem refused_call_highlight :
    let s := ({} : Session).after [.build .highlight "h" {}]
    let result := s.step (.call "h" "fields" { positional := [.plain (.int 5)] } {})
    result.response = .error (.fault (.misuse (.notNames "fields"))) ∧ result.session ≠ s := by
  intro s result
  refine ⟨rfl, fun hsame => ?_⟩
  have hrefused := refused_call {} [.build .highlight "h" {}] "h" "fields"
    { positional := [.plain (.int 5)] } {} (.notNames "fields") rfl
  refine hrefused.1.1 hsame ⟨⟨.highlight, .empty, "", ""⟩, [], rfl, ?_⟩
  exact ⟨.one (.plain (.int 5)), rfl, rfl, rfl, rfl, rfl, rfl, rfl⟩

end Session

end SearchBuilder
