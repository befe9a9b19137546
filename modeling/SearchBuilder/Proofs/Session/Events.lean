import SearchBuilder.Proofs.Session.Discipline

/-!
# Events

What a step of a program does to the object under a name: it builds one, it calls one, or it does
nothing to it (`Session.event?`). `Session.Happens.step` says the same of the binding of the name,
so what is known of the object under a name is followed through a program by its events alone.
-/

namespace SearchBuilder

/-- A search is a call on a request. -/
instance Object.decidableSearches (o : Object) (method : String) : Decidable (o.Searches method) :=
  match o with
  | .request r => decidable_of_iff (method = "do_search") ⟨fun h => ⟨h, r, rfl⟩, fun h => h.1⟩
  | .node _ => isFalse fun ⟨_, _, h⟩ => Object.noConfusion h

namespace Session

theorem search_bindings (s : Session) (r : Request) (named : Option Operand)
    (handlers : Handlers) : (s.search r named handlers).session.bindings = s.bindings := by
  unfold Session.search Session.post
  dsimp only
  (repeat' split) <;> rfl

/-- What happens to the object under a name. -/
inductive Event where
  | built (kind : Kind) (args : Arguments)
  | called (method : String) (args : Arguments)

/-- What a step does to the object under a name. A search is no call on the request. -/
def event? (s : Session) (name : String) : Step → Option Event
  | .build kind subject operands =>
    match (Operand.evalAll s.scope none operands).1 with
    | .ok args =>
      match (Object.build kind args).answer with
      | .ok _ => if subject = name then some (.built kind args) else none
      | .error _ => none
    | .error _ => none
  | .call subject method operands _ =>
    match Entries.get? s.bindings name, (Operand.evalAll s.scope (some name) operands).1 with
    | some (.object o), .ok args =>
      if subject = name ∧ ¬ o.Searches method then some (.called method args) else none
    | _, _ => none
  | _ => none

/-- What an event does to the binding of a name. -/
inductive Happens (name : String) (s s' : Session) : Option Event → Prop
  | built (kind : Kind) (args : Arguments) {answer : Answer} :
    (Object.build kind args).answer = .ok answer →
    Entries.get? s'.bindings name = some (.object (Object.build kind args).state) →
    Happens name s s' (some (.built kind args))
  | called (o : Object) (method : String) (args : Arguments) :
    Entries.get? s.bindings name = some (.object o) →
    Entries.get? s'.bindings name = some (.object (o.call method args).state) →
    Happens name s s' (some (.called method args))
  | kept : Entries.get? s'.bindings name = Entries.get? s.bindings name → Happens name s s' none
  | rebound (id : Nat) : Entries.get? s'.bindings name = some (.client id) → Happens name s s' none

namespace Happens

variable {s : Session} {name : String}

theorem of_bindings {s' : Session} (hs : s'.bindings = s.bindings) : Happens name s s' none :=
  .kept (by rw [hs])

theorem addClient (s : Session) (subject : String) (client : Client) :
    Happens name s (s.addClient subject client) none := by
  change Happens name s (Session.bind _ subject _) none
  by_cases hsame : subject = name
  · subst hsame
    exact .rebound _ (Entries.get?_set_self _ _ _)
  · exact .kept (Entries.get?_set_of_ne _ hsame _)

/-- A construction happens to the name that it binds. -/
theorem build (s : Session) (name : String) (kind : Kind) (subject : String) (operands : Operands) :
    Happens name s (s.step (.build kind subject operands)).session
      (s.event? name (.build kind subject operands)) := by
  simp only [Session.step, event?]
  cases heval : Operand.evalAll s.scope none operands with
  | mk result notices =>
    cases result with
    | error e => exact .kept rfl
    | ok args =>
      dsimp only
      cases hanswer : (Object.build kind args).answer with
      | error f => exact .kept rfl
      | ok a =>
        dsimp only
        split
        · next hsame =>
          refine .built kind args hanswer ?_
          rw [← hsame]
          exact Entries.get?_set_self _ _ _
        · next hother => exact .kept (Entries.get?_set_of_ne _ hother _)

/-- A call happens to the object that it is made on. -/
theorem callObject {subject : String} {o : Object}
    (ho : Entries.get? s.bindings subject = some (.object o)) (method : String)
    (operands : Operands) (handlers : Handlers) (hsearch : ¬ o.Searches method) :
    Happens name s (s.callObject subject o method operands).session
      (s.event? name (.call subject method operands handlers)) := by
  by_cases hsame : subject = name
  · subst hsame
    simp only [event?, Session.callObject, ho]
    cases heval : Operand.evalAll s.scope (some subject) operands with
    | mk result notices =>
      cases result with
      | error e => exact .kept rfl
      | ok args =>
        simp only [true_and, hsearch, not_false_eq_true, if_true]
        exact .called o method args ho (Entries.get?_set_self _ _ _)
  · have hnone : s.event? name (.call subject method operands handlers) = none := by
      simp only [event?]
      split
      · exact if_neg fun h => hsame h.1
      · rfl
    rw [hnone]
    unfold Session.callObject
    split
    · exact .kept rfl
    · exact .kept (Entries.get?_set_of_ne _ hsame _)

/-- A call happens to the object that it is made on, unless it is a search. -/
theorem call (s : Session) (name subject method : String) (operands : Operands)
    (handlers : Handlers) :
    Happens name s (s.step (.call subject method operands handlers)).session
      (s.event? name (.call subject method operands handlers)) := by
  have hnone (hsubject : ∀ o, Entries.get? s.bindings subject = some (.object o) →
      o.Searches method) : s.event? name (.call subject method operands handlers) = none := by
    simp only [event?]
    split
    · next o args ho _ =>
      refine if_neg fun ⟨hsame, hsearch⟩ => hsearch (hsubject o ?_)
      rw [hsame]
      exact ho
    · rfl
  simp only [Session.step, Session.call]
  cases hbinding : Entries.get? s.bindings subject with
  | none =>
    rw [hnone fun o ho => by rw [hbinding] at ho; cases ho]
    exact .kept rfl
  | some b =>
    cases b with
    | object o =>
      cases o with
      | node n =>
        exact callObject hbinding method operands handlers fun ⟨_, _, h⟩ => Object.noConfusion h
      | request r =>
        dsimp only
        split
        · next hsearch =>
          rw [hnone fun o ho => ?_]
          · exact of_bindings (s.search_bindings r _ handlers)
          · rw [hbinding] at ho
            cases ho
            exact ⟨hsearch, r, rfl⟩
        · next hsearch =>
          exact callObject hbinding method operands handlers fun h => hsearch h.1
    | client id =>
      rw [hnone fun o ho => by rw [hbinding] at ho; cases ho]
      dsimp only
      split
      · exact .kept rfl
      · exact .kept rfl
      · exact of_bindings rfl

/-- What a step does to a binding is what its event says. -/
theorem step (s : Session) (name : String) (step : Step) :
    Happens name s (s.step step).session (s.event? name step) := by
  cases step with
  | build kind subject operands => exact build s name kind subject operands
  | call subject method operands handlers => exact call s name subject method operands handlers
  | bindStub subject response => exact addClient s subject _
  | bindPoster subject client => exact addClient s subject _
  | bindBare subject => exact addClient s subject _
  | bindHttp subject operands replies =>
    simp only [event?, Session.step]
    split
    · exact .kept rfl
    · simp only [Session.bindHttp]
      split
      · exact addClient s subject _
      · exact .kept rfl
  | register subject =>
    simp only [event?, Session.step, Session.register]
    split
    · exact of_bindings rfl
    · exact .kept rfl
  | current => exact .kept rfl
  | clear => exact of_bindings rfl

end Happens

section Inversion

variable {s : Session} {name : String} {step : Step}

theorem step_of_built {kind : Kind} {args : Arguments}
    (h : s.event? name step = some (.built kind args)) :
    ∃ operands, step = .build kind name operands ∧
      (Operand.evalAll s.scope none operands).1 = .ok args := by
  cases step with
  | build other subject operands =>
    simp only [event?] at h
    split at h
    · next given heval =>
      split at h
      · split at h
        · next hsame =>
          cases h
          exact ⟨operands, hsame ▸ rfl, heval⟩
        · cases h
      · cases h
    · cases h
  | call subject method operands handlers =>
    simp only [event?] at h
    split at h
    · split at h <;> cases h
    · cases h
  | _ => cases h

theorem step_of_called {method : String} {args : Arguments}
    (h : s.event? name step = some (.called method args)) :
    ∃ operands handlers, step = .call name method operands handlers ∧
      (Operand.evalAll s.scope (some name) operands).1 = .ok args := by
  cases step with
  | build kind subject operands =>
    simp only [event?] at h
    split at h
    · split at h
      · split at h <;> cases h
      · cases h
    · cases h
  | call subject other operands handlers =>
    simp only [event?] at h
    split at h
    · next o given ho heval =>
      split at h
      · next hcall =>
        cases h
        exact ⟨operands, handlers, hcall.1 ▸ rfl, heval⟩
      · cases h
    · cases h
  | _ => cases h

end Inversion

end Session

end SearchBuilder
