import SearchBuilder.Proofs.Catalog.Texts
import SearchBuilder.Proofs.Document.Frame
import SearchBuilder.Request

/-!
# Requests that can be written

The texts about a request are those of its body and its path, in which the parameters are shown. A
call keeps them writable if the values can be written that it stores as they are given
(`Request.Writable.call`).
-/

namespace SearchBuilder

variable {limit : DigitLimit}

/-! ## Texts about a request -/

/-- A request whose texts can be written. -/
structure Request.Writable (limit : DigitLimit) (r : Request) : Prop where
  kind : r.body.kind = .request
  body : r.body.Writable limit (some .notJson)
  params : r.paramsNode.Writable limit (some .notJson)

namespace Request

variable {r : Request}

/-- The path can be written if all parameters can be shown. -/
theorem fault?_pathWriting (h : ∀ param ∈ r.params, param.2.Writable limit none) :
    r.pathWriting.fault? limit = none := by
  refine List.findSome?_eq_none_iff.2 fun value hvalue => ?_
  obtain ⟨param, hparam, rfl⟩ := List.mem_map.1 hvalue
  exact h param hparam

theorem Writable.path (h : r.Writable limit) : r.pathWriting.fault? limit = none :=
  fault?_pathWriting fun param hparam => (Json.writable_obj.1 h.params param hparam).shown

/-- What keeps a search from being sent: that its path cannot be written, or else its body. -/
def fault? (limit : DigitLimit) (r : Request) : Option TextFault :=
  (r.pathWriting.fault? limit).or (r.body.fragment.jsonFault? limit)

theorem runParam_silent (r : Request) (a : Accessor) (v : Argument) (w : Writing) :
    (r.runParam a v).answer ≠ .ok (.text w) := by
  intro h
  simp only [runParam] at h
  cases hanswer : (a.run r.paramsNode v).answer with
  | error fault =>
    rw [hanswer] at h
    cases h
  | ok answer =>
    rw [hanswer] at h
    cases answer with
    | text w' =>
      have hsilent : (Operation.accessor a).inspects = false := rfl
      exact Operation.run_silent hsilent r.paramsNode (.one v) w' hanswer
    | _ => cases h

end Request

/-- Of the texts about the target of a request the path is the only one. -/
theorem TargetMethod.run_text {m : TargetMethod} {r : Request} {args : Arguments} {w : Writing}
    (h : (m.run r args).answer = .ok (.text w)) : (m.run r args).state = r ∧ w = r.pathWriting := by
  cases m with
  | indices | types | routing =>
    simp only [run] at h
    (repeat' split at h) <;> cases h
  | searchType | preference => exact absurd h (r.runParam_silent _ _ w)
  | path =>
    cases h
    exact ⟨rfl, rfl⟩

/-! ## Calls -/

namespace Request

/-- The methods about the target of a request are none of its body. -/
theorem targetMethods_foreign : ∀ entry ∈ targetMethods,
    Entries.get? Kind.request.methods entry.1 = none := by decide

theorem runParam_writable {r : Request} (hparams : r.paramsNode.Writable limit (some .notJson))
    (a : Accessor) {v : Argument} (hv : v.ShowsWritable limit (some .notJson))
    (hvalues : AllWritable limit (some .notJson) (a.values v)) :
    (r.runParam a v).state.paramsNode.Writable limit (some .notJson) := by
  have hrun := (Accessor.run_writable hparams a hv hvalues).state
  change (Json.obj
    (((a.run r.paramsNode v).state.fragment.members?).getD r.params)).Writable limit _
  cases hmembers : (a.run r.paramsNode v).state.fragment.members? with
  | none => exact hparams
  | some members => exact Json.writable_obj.2 (Json.Writable.members hrun hmembers)

end Request

theorem TargetMethod.run_writable {r : Request} (hr : r.Writable limit) (m : TargetMethod)
    {args : Arguments} (hshow : args.Show (·.fragment.Writable limit (some .notJson)))
    (hall : AllWritable limit (some .notJson) args.all) : (m.run r args).state.Writable limit := by
  have hcoerce {r : Request} (h : r.paramsNode.Writable limit (some .notJson)) :
      r.coerceIndices.paramsNode.Writable limit (some .notJson) := by
    unfold Request.coerceIndices
    split <;> exact h
  have hbody := m.run_body r args
  refine ⟨(congrArg Node.kind hbody).trans hr.kind, hbody.symm ▸ hr.body, ?_⟩
  cases m with
  | indices | types =>
    simp only [run]
    (repeat' split) <;> first | exact hr.params | exact hcoerce hr.params
  | routing =>
    simp only [run]
    (repeat' split) <;> exact hr.params
  | searchType =>
    exact Request.runParam_writable hr.params _ (hshow.first []) (List.forall_mem_nil _)
  | preference =>
    exact Request.runParam_writable hr.params _ (hshow.first [])
      (List.forall_mem_singleton.2 (Arguments.first_writable hall []))
  | path => exact hr.params

namespace Request

variable {r : Request} {args : Arguments}
  (hshow : args.Show (·.fragment.Writable limit (some .notJson)))
include hshow

/-- A call keeps a request whose texts can be written, if what it stores can be. -/
theorem Writable.call (h : r.Writable limit) {method : String}
    (hvalues : AllWritable limit (some .notJson) (Kind.request.valuesOf method args)) :
    (r.call method args).state.Writable limit := by
  unfold Request.call
  split
  · next target htarget =>
    have hforeign := targetMethods_foreign _ (Entries.mem_of_get? htarget)
    rw [Kind.valuesOf, hforeign] at hvalues
    exact target.run_writable h hshow hvalues
  · have hbody := h.body.call hshow (h.kind.symm ▸ hvalues)
    exact ⟨(r.body.call_kind method args).trans h.kind, hbody, h.params⟩

/-- The texts about a new request can be written. -/
theorem build_writable (hall : AllWritable limit (some .notJson) args.all) :
    (build args).state.Writable limit := by
  have hempty : empty.Writable limit := ⟨rfl, Json.writable_empty, Json.writable_empty⟩
  have hgiven (m : TargetMethod) (index : Nat) (name : String) (r : Request)
      (hr : r.Writable limit) : (m.run r (.one (args.get index name))).state.Writable limit := by
    have hone := List.forall_mem_singleton.2 (hshow.get index name)
    refine m.run_writable hr ⟨hone, List.forall_mem_nil _⟩ ?_
    exact List.forall_mem_singleton.2 (Arguments.get_writable hall index name)
  exact Outcome.andThen_keeps (hgiven .indices 0 "indices" _ hempty) fun r hr =>
    Outcome.andThen_keeps (hgiven .types 1 "types" r hr) (hgiven .routing 2 "routing")

end Request

end SearchBuilder
