import SearchBuilder.Proofs.Session.Lists

/-!
# The history of an object

An object is what it was when it was built and what was called on it since. `Session.event?` says
what a step does to the object under a name, and `Session.history` follows a program; replayed, the
history gives the object (`Session.Recorded.after`). An object that is built on the spot has the
history that its operand spells out (`Operand.exists_history`).
-/

namespace SearchBuilder

/-! ## Histories -/

/-- The object after some calls, accepted or not. -/
def Object.after (o : Object) (calls : List (String × Arguments)) : Object :=
  calls.foldl (fun o call => (o.call call.1 call.2).state) o

/-- Calls do not change what kind of object an object is. -/
theorem Object.after_kind (o : Object) (calls : List (String × Arguments)) :
    (o.after calls).kind = o.kind := by
  induction calls generalizing o with
  | nil => rfl
  | cons call rest ih => exact (ih _).trans (o.call_kind call.1 call.2)

namespace Object

/-- An object as it was built, with what was called on it since. -/
structure History where
  origin : Object
  calls : List (String × Arguments) := []

namespace History

/-- The object that has come out of a history. -/
def object (h : History) : Object := h.origin.after h.calls

/-- The history with one more call. -/
def add (h : History) (method : String) (args : Arguments) : History :=
  { h with calls := h.calls ++ [(method, args)] }

theorem object_add (h : History) (method : String) (args : Arguments) :
    (h.add method args).object = (h.object.call method args).state := List.foldl_append

/-- The history of an object whose calls were given nodes as `View` says. -/
structure Explains (View : Child → Prop) (h : History) (o : Object) : Prop where
  object : h.object = o
  built : ∃ k args, h.origin = (Object.build k args).state
  shown : ∀ call ∈ h.calls, call.2.Show View

/-- A further call is explained by one more entry of the history. -/
theorem Explains.add {View : Child → Prop} {h : History} {o : Object} (hh : h.Explains View o)
    (method : String) {args : Arguments} (hargs : args.Show View) :
    (h.add method args).Explains View (o.call method args).state where
  object := by rw [object_add, hh.object]
  built := hh.built
  shown := by
    intro call hcall
    rcases List.mem_append.1 hcall with hbefore | hlast
    · exact hh.shown call hbefore
    · rw [List.mem_singleton.1 hlast]
      exact hargs

end History

end Object

/-! ## Histories of names -/

namespace Session

/-- The history of the object under a name after an event. -/
def recordEvent (h : Option Object.History) : Option Event → Option Object.History
  | some (.built kind args) => some { origin := (Object.build kind args).state }
  | some (.called method args) => h.map (·.add method args)
  | none => h

/-- The history of the object under a name after some steps. -/
def historyFrom (name : String) (h : Option Object.History) (s : Session) :
    List Step → Option Object.History
  | [] => h
  | first :: rest =>
    historyFrom name (recordEvent h (s.event? name first)) (s.step first).session rest

/-- The history of the object that is under a name at the end of a program. -/
def history (s : Session) (name : String) (steps : List Step) : Option Object.History :=
  s.historyFrom name none steps

/-- The object under a name has come out of its history. -/
def Recorded (s : Session) (View : Child → Prop) (name : String) (h : Option Object.History) :
    Prop :=
  ∀ o, Entries.get? s.bindings name = some (.object o) → ∃ history, h = some history ∧
    history.Explains View o

namespace Recorded

variable {d : Discipline} {Inv : Object → Prop} {View : Child → Prop} {Admitted : Fault → Prop}
variable {s : Session} {name : String} {h : Option Object.History}

/-- A step records what it does to the object that a name stands for. -/
theorem step (hrecorded : s.Recorded View name h) (hd : d.Keeps Inv View Admitted)
    (hs : s.All Inv) {step : Step} (hstep : step.Obeys d s) :
    (s.step step).session.Recorded View name (recordEvent h (s.event? name step)) := by
  intro o ho
  have hhappens := Happens.step s name step
  generalize hevent : s.event? name step = event at hhappens
  cases hhappens with
  | built kind args hanswer hbound =>
    obtain rfl : (Object.build kind args).state = o := by
      rw [hbound] at ho
      exact Binding.object.inj (Option.some.inj ho)
    exact ⟨_, rfl, rfl, ⟨kind, args, rfl⟩, fun _ hcall => by cases hcall⟩
  | called b method args hbefore hbound =>
    obtain rfl : (b.call method args).state = o := by
      rw [hbound] at ho
      exact Binding.object.inj (Option.some.inj ho)
    obtain ⟨history, rfl, hexplains⟩ := hrecorded b hbefore
    obtain ⟨operands, handlers, rfl, heval⟩ := step_of_called hevent
    have hargs := (hd.evalAll (hs.look hd.view) (some name) hstep.1).good args heval
    exact ⟨_, rfl, hexplains.add method hargs⟩
  | kept hkept => exact hrecorded o (hkept ▸ ho)
  | rebound id hrebound =>
    rw [hrebound] at ho
    cases ho

/-- After a program the object that a name stands for is explained by what was recorded. -/
theorem after (hd : d.Keeps Inv View Admitted) (steps : List Step) {s : Session}
    {h : Option Object.History} (hrecorded : s.Recorded View name h) (hs : s.All Inv)
    (hsteps : s.Obeys d steps) :
    (s.after steps).Recorded View name (s.historyFrom name h steps) := by
  induction steps generalizing s h with
  | nil => exact hrecorded
  | cons first rest ih =>
    exact ih (hrecorded.step hd hs hsteps.1) (hd.step hs hsteps.1).all hsteps.2

end Recorded

end Session

/-! ## Histories of operands -/

/-- A sequence that succeeds has a first part that succeeds. -/
theorem Logged.bind_ok {ε α β : Type} {x : Logged ε α} {f : α → Logged ε β} {b : β}
    (h : (x.bind f).1 = .ok b) : ∃ a, x.1 = .ok a ∧ (f a).1 = .ok b := by
  obtain ⟨result, notices⟩ := x
  cases result with
  | error e => cases h
  | ok a => exact ⟨a, rfl, h⟩

theorem Logged.ofOutcome_ok {σ : Type} {o : Outcome σ} {state : σ}
    (h : (Logged.ofOutcome o).1 = .ok state) : state = o.state := by
  unfold Logged.ofOutcome at h
  cases hanswer : o.answer <;> rw [hanswer] at h <;> cases h
  rfl

namespace Operand

variable (scope : Scope)

/-- The calls that are made on a fresh object. -/
def callsMade? : List (String × List Operand) → Option (List (String × Arguments))
  | [] => some []
  | (method, operands) :: rest =>
    match (evalList scope none operands).1, callsMade? rest with
    | .ok positional, some made => some ((method, { positional }) :: made)
    | _, _ => none

/-- The history of a fresh object. -/
def history? (kind : Kind) (operands : Operands) (calls : List (String × List Operand)) :
    Option Object.History :=
  match (evalAll scope none operands).1, callsMade? scope calls with
  | .ok args, some made => some { origin := (Object.build kind args).state, calls := made }
  | _, _ => none

variable {scope} {d : Discipline} {Inv : Object → Prop} {View : Child → Prop}
variable {Admitted : Fault → Prop}

/-- A fresh object is its construction followed by the calls that are made on it at once. -/
theorem exists_callsMade {kind : Kind} {calls : List (String × List Operand)} {o o' : Object}
    (h : (evalCalls scope o calls).1 = .ok o') (hd : d.Keeps Inv View Admitted)
    (hlook : ∀ receiver name a, scope.look receiver name = some a → a.Shows View)
    (hother : ∀ name a, scope.look none name = some a → a.IsOther)
    (hobeys : CallsObey d scope kind calls) :
    ∃ made, callsMade? scope calls = some made ∧ o' = o.after made ∧
      ∀ call ∈ made, call.2.Show View ∧ call.2.first ≠ .receiver := by
  induction calls generalizing o with
  | nil =>
    cases h
    exact ⟨[], rfl, rfl, fun _ hcall => by cases hcall⟩
  | cons call rest ih =>
    obtain ⟨method, operands⟩ := call
    simp only [CallsObey] at hobeys
    obtain ⟨hoperands, -, hrest⟩ := hobeys
    simp only [evalCalls] at h
    obtain ⟨positional, hpositional, h⟩ := Logged.bind_ok h
    obtain ⟨next, hnext, h⟩ := Logged.bind_ok h
    obtain rfl := Logged.ofOutcome_ok hnext
    obtain ⟨made, hmade, hafter, hcalls⟩ := ih h hrest
    refine ⟨(method, { positional }) :: made, ?_, hafter, ?_⟩
    · simp only [callsMade?, hpositional, hmade]
    · refine List.forall_mem_cons.2 ⟨⟨⟨?_, fun _ hentry => by cases hentry⟩, ?_⟩, hcalls⟩
      · exact (hd.evalList hlook none operands hoperands).good _ hpositional
      · have hothers := (evalList_isOther scope hother operands).good _ hpositional
        exact ((Arguments.first_cases { positional } []).meets (.plain .null) hothers
          fun _ hentry => by cases hentry).self

/-- An object that is built on the spot has come out of its history. -/
theorem exists_history {receiver : Option String} {kind : Kind} {operands : Operands}
    {calls : List (String × List Operand)} {child : Child}
    (h : (eval scope receiver (.fresh kind operands.positional operands.named calls)).1 =
      .ok (.node child)) (hd : d.Keeps Inv View Admitted)
    (hlook : ∀ receiver name a, scope.look receiver name = some a → a.Shows View)
    (hother : ∀ name a, scope.look none name = some a → a.IsOther)
    (hobeys : Obeys d scope (.fresh kind operands.positional operands.named calls)) :
    ∃ history, history? scope kind operands calls = some history ∧
      history.object.toChild = child ∧ history.Explains View history.object ∧
      ∀ call ∈ history.calls, call.2.first ≠ .receiver := by
  simp only [eval] at h
  simp only [Obeys] at hobeys
  obtain ⟨-, -, hcalls, -⟩ := hobeys
  obtain ⟨positional, hpositional, h⟩ := Logged.bind_ok h
  obtain ⟨named, hnamed, h⟩ := Logged.bind_ok h
  obtain ⟨built, hbuilt, h⟩ := Logged.bind_ok h
  obtain ⟨o, ho, h⟩ := Logged.bind_ok h
  obtain rfl := Logged.ofOutcome_ok hbuilt
  obtain ⟨made, hmade, rfl, hshown⟩ := exists_callsMade ho hd hlook hother hcalls
  have hargs : (evalAll scope none operands).1 = .ok { positional, named } := by
    have hbind {α β : Type} {x : Logged OperandFault α} {f : α → Logged OperandFault β} {a : α}
        (hx : x.1 = .ok a) : (x.bind f).1 = (f a).1 := by
      obtain ⟨_, _⟩ := x
      cases hx
      rfl
    rw [evalAll, hbind hpositional, hbind hnamed]
    rfl
  refine ⟨_, by simp only [history?, hargs, hmade]; rfl, ?_, ⟨rfl, ⟨kind, _, rfl⟩, ?_⟩, ?_⟩
  · exact Argument.node.inj (Except.ok.inj h)
  · exact fun call hcall => (hshown call hcall).1
  · exact fun call hcall => (hshown call hcall).2

end Operand

end SearchBuilder
