import SearchBuilder.Proofs.Request.Texts
import SearchBuilder.Session.Program

/-!
# Objects that can be written

The texts about an object are those of its fragment and, for a request, its path. A call answers a
text that cannot be written only if the object holds what keeps it from being written
(`Object.call_unwritable`), and an object can be written as long as the values can that it is given
to store (`Object.call_writable`).
-/

namespace SearchBuilder

variable {limit : DigitLimit}

/-! ## Objects -/

namespace Object

/-- What an object holds keeps a text about it from being written. -/
def Unwritable (limit : DigitLimit) (cause : TextFault) (o : Object) : Prop :=
  o.fragment.jsonFault? limit = some cause ∨
    ∃ r, o = .request r ∧ r.pathWriting.fault? limit = some cause

/-- All texts about an object can be written. -/
def Writable (limit : DigitLimit) : Object → Prop
  | node n => n.Writable limit (some .notJson)
  | request r => r.Writable limit

theorem Writable.fragment {o : Object} (h : o.Writable limit) :
    o.fragment.Writable limit (some .notJson) := by
  cases o with
  | node n => exact h
  | request r => exact h.body

/-- Nothing keeps an object that can be written from being written. -/
theorem Writable.not_unwritable {o : Object} (h : o.Writable limit) (cause : TextFault) :
    ¬ o.Unwritable limit cause := by
  rintro (hfragment | ⟨r, rfl, hpath⟩)
  · cases h.fragment.symm.trans hfragment
  · cases h.path.symm.trans hpath

end Object

/-! ## Texts that calls answer -/

/-- A call that answers the receiver has nothing to write. -/
theorem Outcome.written_eq_self {σ : Type} (limit : DigitLimit) {o : Outcome σ} :
    (o.written limit).answer = .ok .self ↔ o.answer = .ok .self := by
  unfold written
  cases o.answer with
  | error fault => exact Iff.rfl
  | ok answer =>
    cases answer with
    | text w =>
      change Answer.write limit (.text w) = .ok .self ↔ _
      rw [Answer.write]
      cases w.write limit <;> exact ⟨fun h => (by cases h), fun h => (by cases h)⟩
    | _ => exact Iff.rfl

namespace Object

/-- A text that a call answers cannot be written only for what the object holds. -/
theorem call_unwritable {o : Object} {method : String} {args : Arguments} {w : Writing}
    (h : (o.call method args).answer = .ok (.text w)) {cause : TextFault}
    (hcause : w.fault? limit = some cause) : (o.call method args).state.Unwritable limit cause := by
  have hbody {n : Node} {args : Arguments} (h : (n.call method args).answer = .ok (.text w)) :
      (n.call method args).state.fragment.jsonFault? limit = some cause := by
    obtain ⟨hstate, hdocuments, hshown⟩ := Node.call_text h
    rw [Writing.fault?, hdocuments, hshown] at hcause
    rw [hstate, ← hcause, List.findSome?_singleton, List.findSome?_nil, Option.or_none]
  cases o with
  | node n => exact .inl (hbody h)
  | request r =>
    simp only [call, Request.call] at h ⊢
    split
    · next target htarget =>
      rw [htarget] at h
      obtain ⟨hstate, rfl⟩ := TargetMethod.run_text h
      exact .inr ⟨r, congrArg Object.request hstate, hcause⟩
    · next hnone =>
      rw [hnone] at h
      exact .inl (hbody h)

/-- The call itself fails, or the text that it answers cannot be written. -/
theorem call_written_fault {o : Object} {method : String} {args : Arguments} {fault : Fault}
    (h : ((o.call method args).written limit).answer = .error fault) :
    (o.call method args).answer = .error fault ∨
      ∃ cause, (o.call method args).state.Unwritable limit cause ∧ fault = .unwritten cause := by
  simp only [Outcome.written] at h
  cases hanswer : (o.call method args).answer with
  | error f =>
    rw [hanswer] at h
    exact .inl h
  | ok answer =>
    rw [hanswer] at h
    cases answer with
    | text w =>
      cases hcause : w.fault? limit with
      | none =>
        simp only [bind, Except.bind, Answer.write, Writing.write, hcause] at h
        cases h
      | some cause =>
        simp only [bind, Except.bind, Answer.write, Writing.write, hcause] at h
        cases h
        exact .inr ⟨cause, call_unwritable hanswer hcause, rfl⟩
    | _ => cases h

/-! ## What keeps objects writable -/

/-- A call keeps the texts about an object writable, if what it stores can be written. -/
theorem call_writable {o : Object} (h : o.Writable limit) {method : String} {args : Arguments}
    (hshow : args.Show (·.fragment.Writable limit (some .notJson)))
    (hvalues : AllWritable limit (some .notJson) (o.kind.valuesOf method args)) :
    (o.call method args).state.Writable limit := by
  cases o with
  | node n => exact Node.Writable.call h hshow hvalues
  | request r =>
    have hkind : (Object.request r).kind = .request := h.kind
    exact Request.Writable.call hshow h (hkind ▸ hvalues)

/-- The texts about a new object can be written, if what it stores can be. -/
theorem build_writable {k : Kind} {args : Arguments}
    (hshow : args.Show (·.fragment.Writable limit (some .notJson)))
    (hvalues : AllWritable limit (some .notJson) (k.values args)) :
    (Object.build k args).state.Writable limit := by
  by_cases hrequest : k = .request
  · subst hrequest
    exact Request.build_writable hshow hvalues
  · have hbuild := (k.build_writable hshow hvalues).state
    cases k <;> first | exact absurd rfl hrequest | exact hbuild

end Object

end SearchBuilder
