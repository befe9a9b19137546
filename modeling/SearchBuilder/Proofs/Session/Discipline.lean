import SearchBuilder.Proofs.Session.Texts

/-!
# Disciplined programs

A `Discipline` says what a program may build, call and use. `Discipline.Keeps` says of an invariant
of objects that all that is allowed keeps it, where of another node no more is known than its view.
Then all objects have the invariant after every step of a program, also after steps that fail, and
every fault is one of those that are admitted or that an object with the invariant gives when it
cannot be written (`Discipline.Keeps.runSteps`).

The proof is an induction on the steps and, inside of a step, on the operands, whose fresh objects
run calls of their own.
-/

namespace SearchBuilder

/-! ## Disciplines -/

/-- What a program may do. -/
structure Discipline where
  /-- The foreign nodes that it may use. -/
  uses : Child → Prop
  /-- The kinds that it may build, with what arguments. -/
  builds : Kind → Arguments → Prop
  /-- The methods that it may call on objects of a kind, with what arguments. -/
  calls : Kind → String → Arguments → Prop

/-- What two disciplines both allow. -/
def Discipline.both (d d' : Discipline) : Discipline where
  uses child := d.uses child ∧ d'.uses child
  builds k args := d.builds k args ∧ d'.builds k args
  calls k method args := d.calls k method args ∧ d'.calls k method args

namespace Operand

variable (d : Discipline) (scope : Scope)

mutual

/-- All that happens on the way to the argument of an operand is allowed. -/
def Obeys : Operand → Prop
  | .plain _ | .ref _ | .other => True
  | .list items => AllObey items
  | .foreign child => d.uses child
  | .fresh kind positional named calls =>
    AllObey positional ∧ NamedObey named ∧ CallsObey kind calls ∧
      ∀ args : Arguments, (evalList scope none positional).1 = .ok args.positional →
        (evalNamed scope none named).1 = .ok args.named → d.builds kind args

/-- All that happens on the way to the arguments of operands is allowed. -/
def AllObey : List Operand → Prop
  | [] => True
  | operand :: rest => Obeys operand ∧ AllObey rest

/-- All that happens on the way to the arguments of named operands is allowed. -/
def NamedObey : List (String × Operand) → Prop
  | [] => True
  | (_, operand) :: rest => Obeys operand ∧ NamedObey rest

/-- The calls on a fresh object of a kind are allowed. -/
def CallsObey (kind : Kind) : List (String × List Operand) → Prop
  | [] => True
  | (method, operands) :: rest =>
    AllObey operands ∧
      (∀ positional, (evalList scope none operands).1 = .ok positional →
        d.calls kind method { positional }) ∧
      CallsObey kind rest

end

end Operand

/-- The operands of a call obey a discipline. -/
def Operands.Obey (d : Discipline) (scope : Scope)
    (operands : Operands) : Prop :=
  Operand.AllObey d scope operands.positional ∧ Operand.NamedObey d scope operands.named

/-- A call on a request that sends it to a client. -/
def Object.Searches (o : Object) (method : String) : Prop :=
  method = "do_search" ∧ ∃ r, o = .request r

/-- A step obeys a discipline in a session. Searches are left to the clients. -/
def Step.Obeys (d : Discipline) (s : Session) : Step → Prop
  | .build kind _ operands =>
    operands.Obey d s.scope ∧
      ∀ args, (Operand.evalAll s.scope none operands).1 = .ok args → d.builds kind args
  | .call name method operands _ =>
    operands.Obey d s.scope ∧
      ∀ o args, Entries.get? s.bindings name = some (.object o) → ¬ o.Searches method →
        (Operand.evalAll s.scope (some name) operands).1 = .ok args → d.calls o.kind method args
  | .bindHttp _ operands _ => operands.Obey d s.scope
  | .bindStub _ _ | .bindPoster _ _ | .bindBare _ | .register _ | .current | .clear => True

/-- Every step of a program obeys a discipline in the session that it is run in. -/
def Session.Obeys (d : Discipline) (s : Session) : List Step → Prop
  | [] => True
  | first :: rest => first.Obeys d s ∧ Session.Obeys d (s.step first).session rest

/-- What obeys as a whole obeys up to any step. -/
theorem Session.Obeys.take {d : Discipline} {s : Session} {steps : List Step}
    (h : s.Obeys d steps) (k : Nat) : s.Obeys d (steps.take k) := by
  induction k generalizing s steps with
  | zero => trivial
  | succ k ih =>
    cases steps with
    | nil => trivial
    | cons first rest => exact ⟨h.1, ih h.2⟩

/-! ### Two disciplines -/

section Both

variable {d d' : Discipline} {scope : Scope}

namespace Operand

mutual

/-- An operand that obeys each of two disciplines obeys both. -/
theorem obeys_both : ∀ operand : Operand, Obeys d scope operand → Obeys d' scope operand →
    Obeys (d.both d') scope operand
  | .plain _, _, _ | .ref _, _, _ | .other, _, _ => by simp only [Obeys]
  | .list items, h, h' => by
    simp only [Obeys] at h h' ⊢
    exact allObey_both items h h'
  | .foreign child, h, h' => by
    simp only [Obeys] at h h' ⊢
    exact ⟨h, h'⟩
  | .fresh kind positional named calls, h, h' => by
    simp only [Obeys] at h h' ⊢
    obtain ⟨hpositional, hnamed, hcalls, hbuilds⟩ := h
    obtain ⟨hpositional', hnamed', hcalls', hbuilds'⟩ := h'
    exact ⟨allObey_both positional hpositional hpositional', namedObey_both named hnamed hnamed',
      callsObey_both kind calls hcalls hcalls',
      fun args hps hns => ⟨hbuilds args hps hns, hbuilds' args hps hns⟩⟩

theorem allObey_both : ∀ operands : List Operand, AllObey d scope operands →
    AllObey d' scope operands → AllObey (d.both d') scope operands
  | [], _, _ => trivial
  | operand :: rest, h, h' => by
    simp only [AllObey] at h h' ⊢
    exact ⟨obeys_both operand h.1 h'.1, allObey_both rest h.2 h'.2⟩

theorem namedObey_both : ∀ operands : List (String × Operand), NamedObey d scope operands →
    NamedObey d' scope operands → NamedObey (d.both d') scope operands
  | [], _, _ => trivial
  | (_, operand) :: rest, h, h' => by
    simp only [NamedObey] at h h' ⊢
    exact ⟨obeys_both operand h.1 h'.1, namedObey_both rest h.2 h'.2⟩

theorem callsObey_both (kind : Kind) : ∀ calls : List (String × List Operand),
    CallsObey d scope kind calls → CallsObey d' scope kind calls →
      CallsObey (d.both d') scope kind calls
  | [], _, _ => trivial
  | (_, operands) :: rest, h, h' => by
    simp only [CallsObey] at h h' ⊢
    exact ⟨allObey_both operands h.1 h'.1, fun ps hps => ⟨h.2.1 ps hps, h'.2.1 ps hps⟩,
      callsObey_both kind rest h.2.2 h'.2.2⟩

end

end Operand

theorem Operands.Obey.both {operands : Operands} (h : operands.Obey d scope)
    (h' : operands.Obey d' scope) : operands.Obey (d.both d') scope :=
  ⟨Operand.allObey_both _ h.1 h'.1, Operand.namedObey_both _ h.2 h'.2⟩

theorem Step.Obeys.both {s : Session} {step : Step} (h : step.Obeys d s) (h' : step.Obeys d' s) :
    step.Obeys (d.both d') s := by
  cases step with
  | build kind name operands =>
    exact ⟨h.1.both h'.1, fun args hargs => ⟨h.2 args hargs, h'.2 args hargs⟩⟩
  | call name method operands handlers =>
    exact ⟨h.1.both h'.1, fun o args ho hsearch hargs =>
      ⟨h.2 o args ho hsearch hargs, h'.2 o args ho hsearch hargs⟩⟩
  | bindHttp name operands replies => exact Operands.Obey.both h h'
  | _ => trivial

/-- A program that obeys each of two disciplines obeys both. -/
theorem Session.Obeys.both {s : Session} {steps : List Step} (h : s.Obeys d steps)
    (h' : s.Obeys d' steps) : s.Obeys (d.both d') steps := by
  induction steps generalizing s with
  | nil => trivial
  | cons first rest ih => exact ⟨h.1.both h'.1, ih h.2 h'.2⟩

end Both

/-- What a discipline allows keeps an invariant of objects, and all its faults are admitted. -/
structure Discipline.Keeps (d : Discipline) (Inv : Object → Prop) (View : Child → Prop)
    (Admitted : Fault → Prop) : Prop where
  uses : ∀ child, d.uses child → View child
  view : ∀ o, Inv o → View o.toChild
  build : ∀ k args, d.builds k args → args.Show View →
    (∀ answer, (Object.build k args).answer = .ok answer → Inv (Object.build k args).state) ∧
      ∀ fault, (Object.build k args).answer = .error fault → Admitted fault
  call : ∀ o method args, Inv o → d.calls o.kind method args → args.Show View →
    Inv (o.call method args).state ∧
      ∀ fault, (o.call method args).answer = .error fault → Admitted fault

/-- What two disciplines both allow keeps the invariants of both. -/
theorem Discipline.Keeps.both {d d' : Discipline} {Inv Inv' : Object → Prop}
    {View View' : Child → Prop} {Admitted Admitted' : Fault → Prop}
    (hd : d.Keeps Inv View Admitted) (hd' : d'.Keeps Inv' View' Admitted') :
    (d.both d').Keeps (fun o => Inv o ∧ Inv' o) (fun child => View child ∧ View' child)
      (fun fault => Admitted fault ∧ Admitted' fault) where
  uses := fun child h => ⟨hd.uses child h.1, hd'.uses child h.2⟩
  view := fun o ho => ⟨hd.view o ho.1, hd'.view o ho.2⟩
  build := by
    intro k args h hargs
    have hown := hd.build k args h.1 (hargs.mono fun _ hview => hview.1)
    have hother := hd'.build k args h.2 (hargs.mono fun _ hview => hview.2)
    exact ⟨fun answer hanswer => ⟨hown.1 answer hanswer, hother.1 answer hanswer⟩,
      fun fault hfault => ⟨hown.2 fault hfault, hother.2 fault hfault⟩⟩
  call := by
    intro o method args ho h hargs
    have hown := hd.call o method args ho.1 h.1 (hargs.mono fun _ hview => hview.1)
    have hother := hd'.call o method args ho.2 h.2 (hargs.mono fun _ hview => hview.2)
    exact ⟨⟨hown.1, hother.1⟩, fun fault hfault => ⟨hown.2 fault hfault, hother.2 fault hfault⟩⟩

/-- A fault that is admitted, or that comes of writing an object with the invariant. -/
def Fault.Arises (limit : DigitLimit) (Inv : Object → Prop) (Admitted : Fault → Prop)
    (fault : Fault) : Prop :=
  Admitted fault ∨ ∃ o cause, Inv o ∧ o.Unwritable limit cause ∧ fault = .unwritten cause

/-- What a call with an admitted fault can fail with when its text is written. -/
theorem Object.call_arises {limit : DigitLimit} {Inv : Object → Prop} {Admitted : Fault → Prop}
    {o : Object} {method : String} {args : Arguments} (hinv : Inv (o.call method args).state)
    (hadmitted : ∀ fault, (o.call method args).answer = .error fault → Admitted fault)
    {fault : Fault} (h : ((o.call method args).written limit).answer = .error fault) :
    fault.Arises limit Inv Admitted := by
  rcases call_written_fault h with hown | ⟨cause, hcause, hfault⟩
  · exact .inl (hadmitted fault hown)
  · exact .inr ⟨_, cause, hinv, hcause, hfault⟩

/-! ## Operands -/

/-- A computation on operands fails only with admitted faults, and what it gives is as it should. -/
structure Logged.Meets {α : Type} (x : Logged OperandFault α) (Good : α → Prop)
    (Admitted : Fault → Prop) : Prop where
  good : ∀ a, x.1 = .ok a → Good a
  admitted : ∀ fault, x.1 = .error (.fault fault) → Admitted fault

namespace Logged

variable {α β : Type} {Good : α → Prop} {Better : β → Prop} {Admitted : Fault → Prop}

theorem meets_pure {a : α} (h : Good a) :
    (Logged.pure a : Logged OperandFault α).Meets Good Admitted where
  good := by
    intro b hb
    cases hb
    exact h
  admitted := by
    intro fault hfault
    cases hfault

theorem meets_unbound (name : String) :
    (Logged.fail (.unbound name) : Logged OperandFault α).Meets Good Admitted where
  good := by
    intro a ha
    cases ha
  admitted := by
    intro fault hfault
    cases hfault

/-- The second computation is only run on a value of the first. -/
theorem Meets.bind {x : Logged OperandFault α} {f : α → Logged OperandFault β}
    (h : x.Meets Good Admitted)
    (hf : ∀ a, x.1 = .ok a → Good a → (f a).Meets Better Admitted) :
    (x.bind f).Meets Better Admitted := by
  obtain ⟨result, notices⟩ := x
  cases result with
  | error e =>
    refine ⟨?_, ?_⟩
    · intro b hb
      cases hb
    · intro fault hfault
      cases hfault
      exact h.admitted fault rfl
  | ok a => exact ⟨(hf a rfl (h.good a rfl)).good, (hf a rfl (h.good a rfl)).admitted⟩

/-- An outcome meets what is said of the state that it succeeds in and of its faults. -/
theorem meets_ofOutcome {σ : Type} {o : Outcome σ} {Inv : σ → Prop}
    (hok : ∀ answer, o.answer = .ok answer → Inv o.state)
    (hfault : ∀ fault, o.answer = .error fault → Admitted fault) :
    (Logged.ofOutcome o).Meets Inv Admitted := by
  cases hanswer : o.answer with
  | ok answer =>
    refine ⟨?_, ?_⟩
    · intro s hs
      simp only [ofOutcome, hanswer] at hs
      cases hs
      exact hok answer hanswer
    · intro fault hf
      simp only [ofOutcome, hanswer] at hf
      cases hf
  | error fault =>
    refine ⟨?_, ?_⟩
    · intro s hs
      simp only [ofOutcome, hanswer] at hs
      cases hs
    · intro f hf
      simp only [ofOutcome, hanswer] at hf
      cases hf
      exact hfault fault hanswer

end Logged

namespace Discipline.Keeps

variable {d : Discipline} {Inv : Object → Prop} {View : Child → Prop} {Admitted : Fault → Prop}
variable {scope : Scope}

mutual

/-- An operand stands for an argument that shows what it should. -/
theorem eval (hd : d.Keeps Inv View Admitted)
    (hlook : ∀ receiver name a, scope.look receiver name = some a → a.Shows View) :
    ∀ (receiver : Option String) (operand : Operand), Operand.Obeys d scope operand →
      (Operand.eval scope receiver operand).Meets (·.Shows View)
        (Fault.Arises scope.digits Inv Admitted)
  | _, .plain value, _ => Logged.meets_pure (.plain value)
  | receiver, .list items, h => by
    simp only [Operand.Obeys] at h
    simp only [Operand.eval]
    exact (evalList hd hlook receiver items h).bind fun as _ has => Logged.meets_pure (.list has)
  | receiver, .ref name, _ => by
    simp only [Operand.eval]
    split
    · next a ha => exact Logged.meets_pure (hlook receiver name a ha)
    · exact Logged.meets_unbound name
  | _, .fresh kind positional named calls, h => by
    simp only [Operand.Obeys] at h
    obtain ⟨hpositional, hnamed, hcalls, hbuilds⟩ := h
    simp only [Operand.eval]
    refine (evalList hd hlook none positional hpositional).bind fun ps hps hshown => ?_
    refine (evalNamed hd hlook none named hnamed).bind fun ns hns hnshown => ?_
    -- The kind goes along with the invariant: the calls that follow are allowed for it.
    have hbuild := hd.build kind ⟨ps, ns⟩ (hbuilds ⟨ps, ns⟩ hps hns) ⟨hshown, hnshown⟩
    have hfresh : (Logged.ofOutcome (Object.build kind ⟨ps, ns⟩)).Meets
        (fun o => Inv o ∧ o.kind = kind) (Fault.Arises scope.digits Inv Admitted) :=
      Logged.meets_ofOutcome (fun a ha => ⟨hbuild.1 a ha, Object.build_kind kind _⟩)
        fun fault hfault => .inl (hbuild.2 fault hfault)
    refine hfresh.bind fun o _ ho => ?_
    refine (evalCalls hd hlook kind calls hcalls o ho.1 ho.2).bind fun o' _ ho' => ?_
    exact Logged.meets_pure (.node (hd.view o' ho'))
  | _, .foreign child, h => by
    simp only [Operand.Obeys] at h
    exact Logged.meets_pure (.node (hd.uses child h))
  | _, .other, _ => Logged.meets_pure .other

theorem evalList (hd : d.Keeps Inv View Admitted)
    (hlook : ∀ receiver name a, scope.look receiver name = some a → a.Shows View) :
    ∀ (receiver : Option String) (operands : List Operand), Operand.AllObey d scope operands →
      (Operand.evalList scope receiver operands).Meets (fun as => ∀ a ∈ as, a.Shows View)
        (Fault.Arises scope.digits Inv Admitted)
  | _, [], _ => Logged.meets_pure fun _ h => absurd h List.not_mem_nil
  | receiver, operand :: rest, h => by
    simp only [Operand.AllObey] at h
    simp only [Operand.evalList]
    refine (eval hd hlook receiver operand h.1).bind fun a _ ha => ?_
    refine (evalList hd hlook receiver rest h.2).bind fun as _ has => Logged.meets_pure ?_
    intro b hb
    rcases List.mem_cons.1 hb with rfl | hb
    · exact ha
    · exact has b hb

theorem evalNamed (hd : d.Keeps Inv View Admitted)
    (hlook : ∀ receiver name a, scope.look receiver name = some a → a.Shows View) :
    ∀ (receiver : Option String) (operands : List (String × Operand)),
      Operand.NamedObey d scope operands →
      (Operand.evalNamed scope receiver operands).Meets
        (fun as => ∀ entry ∈ as, entry.2.Shows View) (Fault.Arises scope.digits Inv Admitted)
  | _, [], _ => Logged.meets_pure fun _ h => absurd h List.not_mem_nil
  | receiver, (name, operand) :: rest, h => by
    simp only [Operand.NamedObey] at h
    simp only [Operand.evalNamed]
    refine (eval hd hlook receiver operand h.1).bind fun a _ ha => ?_
    refine (evalNamed hd hlook receiver rest h.2).bind fun as _ has => Logged.meets_pure ?_
    intro entry hentry
    rcases List.mem_cons.1 hentry with rfl | hentry
    · exact ha
    · exact has entry hentry

theorem evalCalls (hd : d.Keeps Inv View Admitted)
    (hlook : ∀ receiver name a, scope.look receiver name = some a → a.Shows View) (kind : Kind) :
    ∀ calls : List (String × List Operand), Operand.CallsObey d scope kind calls →
      ∀ o, Inv o → o.kind = kind →
        (Operand.evalCalls scope o calls).Meets Inv (Fault.Arises scope.digits Inv Admitted)
  | [], _, _, ho, _ => Logged.meets_pure ho
  | (method, operands) :: rest, h, o, ho, hkind => by
    simp only [Operand.CallsObey] at h
    obtain ⟨hoperands, hallowed, hrest⟩ := h
    simp only [Operand.evalCalls]
    refine (evalList hd hlook none operands hoperands).bind fun ps hps hshown => ?_
    have hcall := hd.call o method { positional := ps } ho (hkind ▸ hallowed ps hps)
      ⟨hshown, fun _ hentry => absurd hentry List.not_mem_nil⟩
    have hlater : (Logged.ofOutcome
        ((o.call method { positional := ps }).written scope.digits)).Meets
        (fun o' => Inv o' ∧ o'.kind = kind) (Fault.Arises scope.digits Inv Admitted) :=
      Logged.meets_ofOutcome (fun _ _ => ⟨hcall.1, (o.call_kind method _).trans hkind⟩)
        fun _ hfault => Object.call_arises hcall.1 hcall.2 hfault
    refine hlater.bind fun o' _ ho' => ?_
    exact evalCalls hd hlook kind rest hrest o' ho'.1 ho'.2

end

/-- The operands of a step stand for arguments that show what they should. -/
theorem evalAll (hd : d.Keeps Inv View Admitted)
    (hlook : ∀ receiver name a, scope.look receiver name = some a → a.Shows View)
    (receiver : Option String) {operands : Operands} (h : operands.Obey d scope) :
    (Operand.evalAll scope receiver operands).Meets (·.Show View)
      (Fault.Arises scope.digits Inv Admitted) :=
  (hd.evalList hlook receiver operands.positional h.1).bind fun _ _ hpositional =>
    (hd.evalNamed hlook receiver operands.named h.2).bind fun _ _ hnamed =>
      Logged.meets_pure ⟨hpositional, hnamed⟩

end Discipline.Keeps

/-! ## Sessions -/

namespace Session

/-- All objects that are bound have a property. -/
def All (s : Session) (Inv : Object → Prop) : Prop :=
  ∀ name o, Entries.get? s.bindings name = some (.object o) → Inv o

/-- The session after some steps. -/
def after (s : Session) (steps : List Step) : Session :=
  steps.foldl (fun s step => (s.step step).session) s

variable {Inv : Object → Prop} {View : Child → Prop} {Admitted : Fault → Prop} {s : Session}

theorem all_start (platform : Platform) (Inv : Object → Prop) :
    ({ platform } : Session).All Inv := by
  intro name o ho
  cases ho

theorem All.of_bindings {s' : Session} (h : s.All Inv) (hs : s'.bindings = s.bindings) :
    s'.All Inv := by
  intro name o ho
  rw [hs] at ho
  exact h name o ho

theorem All.bind {b : Binding} (h : s.All Inv) (hb : ∀ o, b = .object o → Inv o) (name : String) :
    (s.bind name b).All Inv := by
  intro other o ho
  simp only [Session.bind] at ho
  rw [Entries.get?_set] at ho
  split at ho
  · exact hb o (Option.some.inj ho)
  · exact h other o ho

theorem All.addClient (h : s.All Inv) (name : String) (client : Client) :
    (s.addClient name client).All Inv := by
  have hclients : ({ s with clients := s.clients ++ [(name, client)] } : Session).All Inv :=
    h.of_bindings rfl
  exact hclients.bind (fun _ ho => Binding.noConfusion ho) name

/-- What names stand for shows what it should if all objects do. -/
theorem All.look (h : s.All Inv) (hview : ∀ o, Inv o → View o.toChild) (receiver : Option String)
    (name : String) (a : Argument) (ha : s.look receiver name = some a) : a.Shows View := by
  unfold Session.look at ha
  cases hbinding : Entries.get? s.bindings name with
  | none =>
    rw [hbinding] at ha
    cases ha
  | some b =>
    rw [hbinding] at ha
    cases b with
    | client id =>
      cases ha
      exact .other
    | object o =>
      simp only [Option.map_some, Option.some.injEq] at ha
      split at ha
      · rw [← ha]
        exact .receiver
      · rw [← ha]
        exact .node (hview o (h name o hbinding))

/-! ### Calls on objects -/

section Calls

variable {name method : String} {o : Object} {operands : Operands} {args : Arguments}
  (heval : (Operand.evalAll s.scope (some name) operands).1 = .ok args)
include heval

/-- A call on an object binds the object that it leaves, also if it fails. -/
theorem callObject_session : (s.callObject name o method operands).session =
    s.bind name (.object (o.call method args).state) := by
  unfold callObject
  cases hpair : Operand.evalAll s.scope (some name) operands with
  | mk result notices =>
    rw [hpair] at heval
    cases heval
    rfl

/-- A call on an object is answered as the call is, once a text in the answer is written. -/
theorem callObject_response : (s.callObject name o method operands).response =
    (((o.call method args).written s.platform.digits).answer.map Answer.toResponse).mapError
      .fault := by
  unfold callObject
  cases hpair : Operand.evalAll s.scope (some name) operands with
  | mk result notices =>
    rw [hpair] at heval
    cases heval
    rfl

theorem callObject_self_iff : (s.callObject name o method operands).response = .ok .self ↔
    (o.call method args).answer = .ok .self := by
  rw [callObject_response heval, ← Outcome.written_eq_self s.platform.digits]
  cases ((o.call method args).written s.platform.digits).answer with
  | error fault => exact ⟨fun h => (by cases h), fun h => (by cases h)⟩
  | ok answer =>
    cases answer with
    | self => exact ⟨fun _ => rfl, fun _ => rfl⟩
    | _ => exact ⟨fun h => (by cases h), fun h => (by cases h)⟩

/-- A step fails as its call does, or because the text that the call answers cannot be written. -/
theorem callObject_fault {fault : Fault}
    (hfault : (s.callObject name o method operands).response = .error (.fault fault)) :
    (o.call method args).answer = .error fault ∨
      ∃ cause, (o.call method args).state.Unwritable s.platform.digits cause ∧
        fault = .unwritten cause := by
  rw [callObject_response heval] at hfault
  cases hanswer : ((o.call method args).written s.platform.digits).answer with
  | error other =>
    rw [hanswer] at hfault
    cases hfault
    exact Object.call_written_fault hanswer
  | ok answer =>
    rw [hanswer] at hfault
    cases hfault

/-- A step that blames an argument does so because its call does. -/
theorem callObject_misuse {cause : Misuse}
    (h : (s.callObject name o method operands).response = .error (.fault (.misuse cause))) :
    (o.call method args).answer = .error (.misuse cause) := by
  rcases callObject_fault heval h with hown | ⟨_, _, hfault⟩
  · exact hown
  · cases hfault

end Calls

end Session

/-- A step leaves all objects with the invariant and fails only with admitted faults. -/
structure StepResult.Meets (result : StepResult) (Inv : Object → Prop) (Admitted : Fault → Prop) :
    Prop where
  all : result.session.All Inv
  admitted : ∀ fault, result.response = .error (.fault fault) → Admitted fault

/-- Messages and the like do not matter. -/
theorem StepResult.Meets.of_eq {result result' : StepResult} {Inv : Object → Prop}
    {Admitted : Fault → Prop} (h : result.Meets Inv Admitted)
    (hsession : result'.session = result.session)
    (hresponse : result'.response = result.response) : result'.Meets Inv Admitted where
  all := hsession ▸ h.all
  admitted := hresponse ▸ h.admitted

/-- That there is no client is no fault. -/
theorem Session.recipient_ne_fault (s : Session) (named : Option Operand) (fault : Fault) :
    s.recipient named ≠ .error (.fault fault) := by
  unfold recipient
  (repeat' split) <;> exact fun h => (by cases h)

namespace Session

theorem search_platform (s : Session) (r : Request) (named : Option Operand) (handlers : Handlers) :
    (s.search r named handlers).session.platform = s.platform := by
  unfold search post
  dsimp only
  (repeat' split) <;> rfl

theorem callObject_platform (s : Session) (name : String) (o : Object) (method : String)
    (operands : Operands) :
    (s.callObject name o method operands).session.platform = s.platform := by
  unfold callObject
  split <;> rfl

/-- A program runs on one platform. -/
theorem step_platform (s : Session) (step : Step) :
    (s.step step).session.platform = s.platform := by
  cases step with
  | build kind name operands =>
    simp only [Session.step]
    (repeat' split) <;> rfl
  | call name method operands handlers =>
    simp only [Session.step, call]
    split
    · rfl
    · split
      · exact s.search_platform _ _ _
      · exact s.callObject_platform _ _ _ _
    · exact s.callObject_platform _ _ _ _
    · split <;> rfl
  | bindHttp name operands replies =>
    simp only [Session.step, bindHttp]
    (repeat' split) <;> rfl
  | register name =>
    simp only [Session.step, register]
    split <;> rfl
  | _ => rfl

/-- A program ends on the platform that it begins on. -/
theorem after_platform (steps : List Step) (s : Session) :
    (s.after steps).platform = s.platform := by
  induction steps generalizing s with
  | nil => rfl
  | cons first rest ih => exact (ih (s.step first).session).trans (s.step_platform first)

end Session

namespace Discipline.Keeps

variable {d : Discipline} {Inv : Object → Prop} {View : Child → Prop} {Admitted : Fault → Prop}
variable {s : Session}

theorem meets_operandFault {operands : Operands}
    {scope : Scope} {receiver : Option String}
    {Good : Arguments → Prop} (h : (Operand.evalAll scope receiver operands).Meets Good Admitted)
    {e : OperandFault} (he : (Operand.evalAll scope receiver operands).1 = .error e) (fault : Fault)
    (hfault : (.error e.toFailure : Except Failure Response) = .error (.fault fault)) :
    Admitted fault := by
  cases e with
  | unbound name => cases hfault
  | fault f =>
    cases hfault
    exact h.admitted fault he

/-- What a client answers is no fault of an object. -/
theorem callClient (hs : s.All Inv) (id : Nat) (client : Client) (method : String)
    (args : Arguments) (handlers : Handlers) :
    (s.callClient id client method args handlers).Meets Inv Admitted where
  all := hs.of_bindings rfl
  admitted := by
    intro fault hfault
    simp only [Session.callClient] at hfault
    cases hanswer : (client.call method args handlers (s.platform.skip s.drawn)).answer with
    | error e =>
      rw [hanswer] at hfault
      cases hfault
    | ok a =>
      rw [hanswer] at hfault
      cases hfault

theorem post (hs : s.All Inv) (id : Nat) (path body : String) (handlers : Handlers) :
    (s.post id path body handlers).Meets Inv Admitted := by
  unfold Session.post
  split
  · exact callClient hs id _ "post" _ handlers
  · exact ⟨hs, fun fault hfault => by cases hfault⟩

/-- A search of a request fails with a fault only if the request cannot be written. -/
theorem search (hs : s.All Inv) {r : Request} (hr : Inv (.request r)) (named : Option Operand)
    (handlers : Handlers) :
    (s.search r named handlers).Meets Inv (Fault.Arises s.platform.digits Inv Admitted) := by
  have hunwritten {cause : TextFault} {notices : List Notice}
      (h : (Object.request r).Unwritable s.platform.digits cause) :
      ({ session := s, response := .error (.fault (.unwritten cause)), notices } :
        StepResult).Meets Inv (Fault.Arises s.platform.digits Inv Admitted) :=
    ⟨hs, fun fault hfault => by cases hfault; exact .inr ⟨_, cause, hr, h, rfl⟩⟩
  have hpath {cause : TextFault} (h : r.pathWriting.write s.platform.digits = .error cause) :
      (Object.request r).Unwritable s.platform.digits cause :=
    .inr ⟨r, rfl, Writing.write_eq_error.1 h⟩
  have hbody {cause : TextFault} (h : r.bodyWriting.write s.platform.digits = .error cause) :
      (Object.request r).Unwritable s.platform.digits cause :=
    .inl ((Writing.fault?_spaced _).symm.trans (Writing.write_eq_error.1 h))
  unfold Session.search
  dsimp only
  split
  · exact ⟨hs, fun fault hfault => by cases hfault⟩
  · next hwrite _ => exact hunwritten (hpath hwrite)
  · next failure path _ hrecipient _ =>
    refine ⟨hs, fun fault hfault => ?_⟩
    cases hfault
    exact absurd hrecipient (s.recipient_ne_fault named fault)
  · split
    · next hwrite => exact hunwritten (hbody hwrite)
    · exact (post hs _ _ _ handlers).of_eq rfl rfl

/-- A call that is allowed keeps the invariant of all objects. -/
theorem callObject (hd : d.Keeps Inv View Admitted) (hs : s.All Inv) {name : String} {o : Object}
    (ho : Entries.get? s.bindings name = some (.object o)) (method : String) {operands : Operands}
    (hobey : operands.Obey d s.scope)
    (hallowed : ∀ args, (Operand.evalAll s.scope (some name) operands).1 = .ok args →
      d.calls o.kind method args) :
    (s.callObject name o method operands).Meets Inv
      (Fault.Arises s.platform.digits Inv Admitted) := by
  have hargs := hd.evalAll (hs.look hd.view) (some name) hobey
  unfold Session.callObject
  cases heval : Operand.evalAll s.scope (some name) operands with
  | mk result notices =>
    cases result with
    | error e =>
      exact ⟨hs, meets_operandFault hargs (by rw [heval])⟩
    | ok args =>
      have hcall := hd.call o method args (hs name o ho) (hallowed args (by rw [heval]))
        (hargs.good args (by rw [heval]))
      refine ⟨hs.bind (fun o' ho' => ?_) name, ?_⟩
      · cases ho'
        exact hcall.1
      · intro fault hfault
        dsimp only at hfault
        cases hanswer : ((o.call method args).written s.platform.digits).answer with
        | error f =>
          rw [hanswer] at hfault
          cases hfault
          exact Object.call_arises hcall.1 hcall.2 hanswer
        | ok a =>
          rw [hanswer] at hfault
          cases hfault

/-- A construction that is allowed binds an object with the invariant. -/
theorem buildStep (hd : d.Keeps Inv View Admitted) (hs : s.All Inv) {kind : Kind} {name : String}
    {operands : Operands} (hstep : (Step.build kind name operands).Obeys d s) :
    (s.step (.build kind name operands)).Meets Inv
      (Fault.Arises s.platform.digits Inv Admitted) := by
  obtain ⟨hobey, hallowed⟩ := hstep
  have hargs := hd.evalAll (hs.look hd.view) none hobey
  simp only [Session.step]
  cases heval : Operand.evalAll s.scope none operands with
  | mk result notices =>
    cases result with
    | error e => exact ⟨hs, meets_operandFault hargs (by rw [heval])⟩
    | ok args =>
      have hbuild := hd.build kind args (hallowed args (by rw [heval]))
        (hargs.good args (by rw [heval]))
      dsimp only
      cases hanswer : (Object.build kind args).answer with
      | error f =>
        refine ⟨hs, fun fault hfault => ?_⟩
        rw [← Failure.fault.inj (Except.error.inj hfault)]
        exact .inl (hbuild.2 f hanswer)
      | ok a =>
        refine ⟨hs.bind (fun o ho => ?_) name, fun fault hfault => ?_⟩
        · cases ho
          exact hbuild.1 a hanswer
        · cases hfault

/-- A call by name that is allowed keeps the invariant, be it on an object or on a client. -/
theorem callStep (hd : d.Keeps Inv View Admitted) (hs : s.All Inv) {name method : String}
    {operands : Operands} {handlers : Handlers}
    (hstep : (Step.call name method operands handlers).Obeys d s) :
    (s.step (.call name method operands handlers)).Meets Inv
      (Fault.Arises s.platform.digits Inv Admitted) := by
  obtain ⟨hobey, hallowed⟩ := hstep
  simp only [Session.step, Session.call]
  cases hbinding : Entries.get? s.bindings name with
  | none => exact ⟨hs, fun fault hfault => by cases hfault⟩
  | some b =>
    cases b with
    | object o =>
      have hobject (hsearch : ¬ o.Searches method) :
          (s.callObject name o method operands).Meets Inv
            (Fault.Arises s.platform.digits Inv Admitted) :=
        hd.callObject hs hbinding method hobey
          fun args hargs => hallowed o args hbinding hsearch hargs
      cases o with
      | node n => exact hobject fun ⟨_, _, hr⟩ => Object.noConfusion hr
      | request r =>
        dsimp only
        split
        · exact (search hs (hs name _ hbinding) _ handlers).of_eq rfl rfl
        · next hmethod => exact hobject fun ⟨hsearch, _⟩ => hmethod hsearch
    | client id =>
      have hargs := hd.evalAll (hs.look hd.view) none hobey
      dsimp only
      cases hclient : s.clients[id]? with
      | none => exact ⟨hs, fun fault hfault => by cases hfault⟩
      | some entry =>
        cases heval : Operand.evalAll s.scope none operands with
        | mk result notices =>
          cases result with
          | error e => exact ⟨hs, meets_operandFault hargs (by rw [heval])⟩
          | ok args => exact (callClient hs id _ method args handlers).of_eq rfl rfl

/-- A step that obeys keeps the invariant of all objects. -/
theorem step (hd : d.Keeps Inv View Admitted) (hs : s.All Inv) {step : Step}
    (hstep : step.Obeys d s) : (s.step step).Meets Inv
      (Fault.Arises s.platform.digits Inv Admitted) := by
  have hnothing {result : StepResult} (hresult : result.session.All Inv)
      (hresponse : ∀ fault, result.response ≠ .error (.fault fault)) :
      result.Meets Inv (Fault.Arises s.platform.digits Inv Admitted) :=
    ⟨hresult, fun fault hfault => absurd hfault (hresponse fault)⟩
  cases step with
  | build kind name operands => exact hd.buildStep hs hstep
  | call name method operands handlers => exact hd.callStep hs hstep
  | bindStub name response => exact hnothing (hs.addClient name _) fun _ h => by cases h
  | bindPoster name client => exact hnothing (hs.addClient name _) fun _ h => by cases h
  | bindBare name => exact hnothing (hs.addClient name _) fun _ h => by cases h
  | bindHttp name operands replies =>
    have hargs := hd.evalAll (hs.look hd.view) none hstep
    simp only [Session.step]
    cases heval : Operand.evalAll s.scope none operands with
    | mk result notices =>
      cases result with
      | error e => exact ⟨hs, meets_operandFault hargs (by rw [heval])⟩
      | ok args =>
        dsimp only [Session.bindHttp]
        split
        · exact hnothing (hs.addClient name _) fun _ h => by cases h
        · exact hnothing hs fun _ h => by cases h
  | register name =>
    simp only [Session.step, Session.register]
    split
    · exact hnothing (hs.of_bindings rfl) fun _ h => by cases h
    · exact hnothing hs fun _ h => by cases h
  | current => exact hnothing hs fun _ h => by cases h
  | clear => exact hnothing (hs.of_bindings rfl) fun _ h => by cases h

/-- All objects have the invariant after every step of a program that obeys. -/
theorem runSteps (hd : d.Keeps Inv View Admitted) (steps : List Step) {s : Session}
    (hs : s.All Inv) (hsteps : s.Obeys d steps) :
    ∀ result ∈ s.runSteps steps,
      result.Meets Inv (Fault.Arises s.platform.digits Inv Admitted) := by
  induction steps generalizing s with
  | nil => exact fun _ h => absurd h List.not_mem_nil
  | cons first rest ih =>
    have hfirst := hd.step hs hsteps.1
    intro result hresult
    rcases List.mem_cons.1 hresult with rfl | hrest
    · exact hfirst
    · rw [← s.step_platform first]
      exact ih hfirst.all hsteps.2 result hrest

/-- All objects have the invariant at the end of a program that obeys. -/
theorem after (hd : d.Keeps Inv View Admitted) (steps : List Step) {s : Session}
    (hs : s.All Inv) (hsteps : s.Obeys d steps) : (s.after steps).All Inv := by
  induction steps generalizing s with
  | nil => exact hs
  | cons first rest ih => exact ih (hd.step hs hsteps.1).all hsteps.2

end Discipline.Keeps

/-! ## Programs without discipline -/

/-- Everything is allowed. -/
def Discipline.free : Discipline where
  uses _ := True
  builds _ _ := True
  calls _ _ _ := True

namespace Operand

mutual

theorem obeys_free (scope : Scope) :
    ∀ operand : Operand, Obeys .free scope operand
  | .plain _ | .ref _ | .other | .foreign _ => by simp [Obeys, Discipline.free]
  | .list items => by
    simp only [Obeys]
    exact allObey_free scope items
  | .fresh kind positional named calls => by
    simp only [Obeys]
    exact ⟨allObey_free scope positional, namedObey_free scope named,
      callsObey_free scope kind calls, fun _ _ _ => trivial⟩

theorem allObey_free (scope : Scope) :
    ∀ operands : List Operand, AllObey .free scope operands
  | [] => trivial
  | operand :: rest => ⟨obeys_free scope operand, allObey_free scope rest⟩

theorem namedObey_free (scope : Scope) :
    ∀ operands : List (String × Operand), NamedObey .free scope operands
  | [] => trivial
  | (_, operand) :: rest => ⟨obeys_free scope operand, namedObey_free scope rest⟩

theorem callsObey_free (scope : Scope) (kind : Kind) :
    ∀ calls : List (String × List Operand), CallsObey .free scope kind calls
  | [] => trivial
  | (_, operands) :: rest =>
    ⟨allObey_free scope operands, fun _ _ => trivial, callsObey_free scope kind rest⟩

end

end Operand

/-- Every program obeys the discipline that allows everything. -/
theorem Session.obeys_free (steps : List Step) (s : Session) : s.Obeys .free steps := by
  induction steps generalizing s with
  | nil => trivial
  | cons first rest ih =>
    refine ⟨?_, ih _⟩
    have hoperands (scope : Scope) (operands : Operands) :
        operands.Obey .free scope :=
      ⟨Operand.allObey_free scope _, Operand.namedObey_free scope _⟩
    cases first with
    | build kind name operands => exact ⟨hoperands _ _, fun _ _ => trivial⟩
    | call name method operands handlers => exact ⟨hoperands _ _, fun _ _ _ _ _ => trivial⟩
    | bindHttp name operands replies => exact hoperands _ _
    | _ => trivial

end SearchBuilder
