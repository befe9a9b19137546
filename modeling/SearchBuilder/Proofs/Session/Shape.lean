import SearchBuilder.Proofs.Catalog.Construction

/-!
# Objects of good shape

The invariant of nodes carried over to objects and sessions: whatever a program does that builds
concrete kinds only and uses no foreign nodes, all objects stay of good shape
(`Discipline.keeps_shaped`).
-/

namespace SearchBuilder

open Outcome

variable {safe : Prop}

/-- An object of good shape. Nodes of the kind of requests are requests. -/
def Object.Shaped (safe : Prop) : Object → Prop
  | .node n => n.kind ≠ .request ∧ n.Shaped safe
  | .request r => r.body.kind = .request ∧ r.body.Shaped safe

/-! ## Requests -/

namespace Request

/-- The parameters are an object, so options among them can be read and written. -/
theorem runParam_harmless (r : Request) {a : Accessor} {key : String}
    (ha : a = .option .root key ∨ ∃ words folding, a = .choice .root key words folding)
    (v : Argument) (fault : Fault) (h : (r.runParam a v).answer = .error fault) :
    ∃ cause, fault = .misuse cause := by
  have hread : ∃ answer, (r.paramsNode.readOption .root key).answer = .ok answer := by
    unfold Node.readOption Node.readPart
    simp only [paramsNode, Node.valueAt, Json.members?]
    split <;> exact ⟨_, rfl⟩
  have hwrite (value : Json) :
      ∃ answer, (r.paramsNode.writeOption .root key value).answer = .ok answer := ⟨_, rfl⟩
  have hrun : ∀ fault, (a.run r.paramsNode v).answer = .error fault →
      ∃ cause, fault = .misuse cause := by
    intro fault hfault
    rcases ha with rfl | ⟨words, folding, rfl⟩
    · unfold Accessor.run at hfault
      split at hfault
      · obtain ⟨answer, hok⟩ := hread
        cases hok.symm.trans hfault
      · obtain ⟨answer, hok⟩ := hwrite (v.toJson r.paramsNode)
        cases hok.symm.trans hfault
    · unfold Accessor.run at hfault
      split at hfault
      · obtain ⟨answer, hok⟩ := hread
        cases hok.symm.trans hfault
      · simp only [Accessor.write] at hfault
        split at hfault
        · cases hfault
          exact ⟨_, rfl⟩
        · split at hfault
          · next word _ _ =>
            obtain ⟨answer, hok⟩ := hwrite (.str (folding.apply word))
            cases hok.symm.trans hfault
          · cases hfault
  simp only [runParam] at h
  cases hanswer : (a.run r.paramsNode v).answer with
  | error f =>
    rw [hanswer] at h
    obtain ⟨cause, hcause⟩ := hrun f hanswer
    exact ⟨cause, (Except.error.inj h).symm.trans hcause⟩
  | ok answer =>
    rw [hanswer] at h
    cases h

end Request

/-- The methods about the target of a request fail only by blaming an argument. -/
theorem TargetMethod.run_harmless (m : TargetMethod) (r : Request) (args : Arguments)
    (fault : Fault) (h : (m.run r args).answer = .error fault) :
    ∃ cause, fault = .misuse cause := by
  cases m with
  | indices | types | routing =>
    simp only [run] at h
    split at h
    · cases h
    · split at h
      · cases h
      · cases h
        exact ⟨_, rfl⟩
  | searchType => exact r.runParam_harmless (.inr ⟨_, _, rfl⟩) _ fault h
  | preference => exact r.runParam_harmless (.inl rfl) _ fault h
  | path => cases h

namespace Request

/-- What a request asks of a call. -/
def Allows (r : Request) (method : String) (args : Arguments) : Prop :=
  (∃ target, Entries.get? targetMethods method = some target) ∨ r.body.Allows method args

/-- A call keeps the good shape of a request, and what it allows fails only by blaming an argument.
-/
theorem call_shaped {r : Request} (hr : (Object.request r).Shaped safe) {method : String}
    {args : Arguments} (hargs : args.Show Child.Genuine) (hallows : safe → r.Allows method args) :
    (Object.request (r.call method args).state).Shaped safe ∧
      (safe → ∀ fault, (r.call method args).answer = .error fault →
        ∃ cause, fault = .misuse cause) := by
  have hkind := (r.call_body_kind method args).trans hr.1
  unfold Request.call at hkind ⊢
  split
  · next target htarget =>
    refine ⟨⟨?_, ?_⟩, fun _ fault hfault => target.run_harmless r args fault hfault⟩
    · rw [TargetMethod.run_body]
      exact hr.1
    · rw [TargetMethod.run_body]
      exact hr.2
  · next hnone =>
    rw [hnone] at hkind
    have hcall : (r.body.call method args).Sound safe := by
      refine Node.call_sound hr.2 hargs fun hsafe => ?_
      rcases hallows hsafe with ⟨target, htarget⟩ | hbody
      · cases hnone.symm.trans htarget
      · exact hbody
    exact ⟨⟨hkind, hcall.shaped⟩, hcall.harmless⟩

theorem build_shaped (args : Arguments) : (Object.request (build args).state).Shaped safe := by
  change (build args).state.body.kind = .request ∧ (build args).state.body.Shaped safe
  rw [build_body]
  exact ⟨rfl, Node.empty_shaped rfl rfl rfl⟩

theorem build_harmless (args : Arguments) :
    ∀ fault, (build args).answer = .error fault → ∃ cause, fault = .misuse cause := by
  have hthen {o : Outcome Request} {next : Request → Outcome Request}
      (ho : ∀ fault, o.answer = .error fault → ∃ cause, fault = .misuse cause)
      (hnext : ∀ r fault, (next r).answer = .error fault → ∃ cause, fault = .misuse cause) :
      ∀ fault, (o.andThen next).answer = .error fault → ∃ cause, fault = .misuse cause := by
    unfold Outcome.andThen
    split
    · exact ho
    · exact hnext o.state
  exact hthen (TargetMethod.run_harmless _ _ _) fun r =>
    hthen (TargetMethod.run_harmless _ _ _) fun r => TargetMethod.run_harmless _ r _

end Request

/-! ## Objects -/

namespace Object

/-- What an object asks of a call. -/
def Allows (o : Object) (method : String) (args : Arguments) : Prop :=
  match o with
  | .node n => n.Allows method args
  | .request r => r.Allows method args

theorem Shaped.toNode {o : Object} (h : o.Shaped safe) : o.toNode.Shaped safe := by
  cases o with
  | node n => exact h.2
  | request r => exact h.2

/-- A call keeps the good shape of an object, and what it allows fails only by blaming an argument.
-/
theorem call_shaped {o : Object} (ho : o.Shaped safe) {method : String} {args : Arguments}
    (hargs : args.Show Child.Genuine) (hallows : safe → o.Allows method args) :
    (o.call method args).state.Shaped safe ∧
      (safe → ∀ fault, (o.call method args).answer = .error fault →
        ∃ cause, fault = .misuse cause) := by
  cases o with
  | node n =>
    have hcall := Node.call_sound ho.2 hargs hallows
    refine ⟨⟨?_, hcall.shaped⟩, hcall.harmless⟩
    rw [n.call_kind]
    exact ho.1
  | request r => exact r.call_shaped ho hargs hallows

/-- An object of a concrete kind is built in good shape. -/
theorem build_shaped {k : Kind} (hk : k.isConcrete = true) {args : Arguments}
    (hargs : args.Show Child.Genuine) (hname : safe → k.givenField args ∉ k.reservedFields) :
    (∀ answer, (Object.build k args).answer = .ok answer →
        (Object.build k args).state.Shaped safe) ∧
      (safe → ∀ fault, (Object.build k args).answer = .error fault →
        ∃ cause, fault = .misuse cause) := by
  by_cases hrequest : k = .request
  · subst hrequest
    exact ⟨fun _ _ => Request.build_shaped args, fun _ => Request.build_harmless args⟩
  · have hbuild := Kind.build_sound hk hargs hname
    have hkind := k.build_kind args
    have hobject : Object.build k args = (k.build args).map .node := by
      cases k <;> first | exact absurd rfl hrequest | rfl
    rw [hobject]
    refine ⟨fun answer hanswer => ⟨?_, hbuild.shaped answer hanswer⟩, hbuild.harmless⟩
    rw [hkind]
    exact hrequest

end Object

/-! ## Sessions -/

/-- A discipline under which only concrete kinds are built and no foreign nodes are used keeps all
objects of good shape. -/
theorem Discipline.keeps_shaped {d : Discipline} (huses : ∀ child, ¬ d.uses child)
    (hbuilds : ∀ k args, d.builds k args → k.isConcrete = true ∧
      (safe → k.givenField args ∉ k.reservedFields))
    (hcalls : ∀ (o : Object) method args, o.Shaped safe → d.calls o.kind method args → safe →
      o.Allows method args) :
    d.Keeps (Object.Shaped safe) Child.Genuine
      fun fault => safe → ∃ cause, fault = .misuse cause where
  uses := fun child h => absurd h (huses child)
  view := fun _ ho => ho.toNode.toChild_genuine
  build := by
    intro k args h hargs
    obtain ⟨hk, hname⟩ := hbuilds k args h
    obtain ⟨hshaped, hharmless⟩ := Object.build_shaped hk hargs hname
    exact ⟨hshaped, fun fault hfault hsafe => hharmless hsafe fault hfault⟩
  call := by
    intro o method args ho h hargs
    obtain ⟨hshaped, hharmless⟩ := Object.call_shaped ho hargs (hcalls o method args ho h)
    exact ⟨hshaped, fun fault hfault hsafe => hharmless hsafe fault hfault⟩

end SearchBuilder
