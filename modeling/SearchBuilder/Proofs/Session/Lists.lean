import SearchBuilder.Proofs.Document.Lists
import SearchBuilder.Proofs.Session.Documents

/-!
# The lists of a session

`Session.gifts` follows through a program what the node under a name is given for one of its list
slots: by the accepted calls of the methods for the slot, and by the construction of the node. At
any time the slot holds the last list that was given and the single nodes given after it
(`Session.list_slots`). What is given of a node is its fragment at the time of the call, whatever
happens to the node later.
-/

namespace SearchBuilder

/-! ## Operands without a receiver -/

namespace Argument

theorem IsOther.plain (value : Json) : (Argument.plain value).IsOther where
  self := Argument.noConfusion
  items := by
    intro items h hmem
    cases value with
    | arr values =>
      cases h
      obtain ⟨item, -, hitem⟩ := List.mem_map.1 hmem
      cases hitem
    | _ => cases h

theorem IsOther.list {items : List Argument} (h : ∀ item ∈ items, item ≠ .receiver) :
    (Argument.list items).IsOther where
  self := Argument.noConfusion
  items := by
    intro others hothers hmem
    cases hothers
    exact h _ hmem rfl

theorem IsOther.node (child : Child) : (Argument.node child).IsOther where
  self := Argument.noConfusion
  items := fun _ h => by cases h

theorem IsOther.other : Argument.other.IsOther where
  self := Argument.noConfusion
  items := fun _ h => by cases h

end Argument

namespace Operand

variable (scope : Scope)

mutual

/-- Without a receiver no operand stands for one. -/
theorem eval_isOther (hlook : ∀ name a, scope.look none name = some a → a.IsOther) :
    ∀ operand : Operand, (eval scope none operand).Meets Argument.IsOther fun _ => True
  | .plain value => Logged.meets_pure (.plain value)
  | .list items => by
    simp only [eval]
    exact (evalList_isOther hlook items).bind fun as _ has =>
      Logged.meets_pure (.list fun a ha => (has a ha).self)
  | .ref name => by
    simp only [eval]
    split
    · next a ha => exact Logged.meets_pure (hlook name a ha)
    · exact Logged.meets_unbound name
  | .fresh kind positional named calls => by
    have hany {α : Type} (x : Logged OperandFault α) : x.Meets (fun _ => True) fun _ => True :=
      ⟨fun _ _ => trivial, fun _ _ => trivial⟩
    simp only [eval]
    refine (hany _).bind fun _ _ _ => (hany _).bind fun _ _ _ => (hany _).bind fun _ _ _ => ?_
    exact (hany _).bind fun o _ _ => Logged.meets_pure (.node o.toChild)
  | .foreign child => Logged.meets_pure (.node child)
  | .other => Logged.meets_pure .other

/-- Operands that are not about the receiver stand for arguments without it. -/
theorem evalList_isOther (hlook : ∀ name a, scope.look none name = some a → a.IsOther) :
    ∀ operands : List Operand,
      (evalList scope none operands).Meets (fun as => ∀ a ∈ as, a.IsOther) fun _ => True
  | [] => Logged.meets_pure (List.forall_mem_nil _)
  | operand :: rest => by
    simp only [evalList]
    refine (eval_isOther hlook operand).bind fun a _ ha =>
      (evalList_isOther hlook rest).bind fun as _ has => ?_
    exact Logged.meets_pure (List.forall_mem_cons.2 ⟨ha, has⟩)

end

theorem evalNamed_isOther (hlook : ∀ name a, scope.look none name = some a → a.IsOther)
    (operands : List (String × Operand)) :
    (evalNamed scope none operands).Meets (fun as => ∀ entry ∈ as, entry.2.IsOther)
      fun _ => True := by
  induction operands with
  | nil => exact Logged.meets_pure (List.forall_mem_nil _)
  | cons entry rest ih =>
    obtain ⟨name, operand⟩ := entry
    simp only [evalNamed]
    refine (eval_isOther scope hlook operand).bind fun a _ ha => ih.bind fun as _ has => ?_
    exact Logged.meets_pure (List.forall_mem_cons.2 ⟨ha, has⟩)

end Operand

namespace Session

theorem look_isOther (s : Session) (name : String) (a : Argument) (h : s.look none name = some a) :
    a.IsOther := by
  unfold look at h
  cases hbinding : Entries.get? s.bindings name with
  | none =>
    rw [hbinding] at h
    cases h
  | some b =>
    rw [hbinding] at h
    cases b with
    | object o =>
      cases h
      exact .node o.toChild
    | client id =>
      cases h
      exact .other

/-- The construction of a node is never given the node. -/
theorem first_isOther {s : Session} {operands : Operands} {args : Arguments}
    (h : (Operand.evalAll s.scope none operands).1 = .ok args) : args.first.IsOther := by
  have hargs : (Operand.evalAll s.scope none operands).Meets
      (fun args => (∀ a ∈ args.positional, a.IsOther) ∧ ∀ entry ∈ args.named, entry.2.IsOther)
      fun _ => True :=
    (Operand.evalList_isOther s.scope s.look_isOther operands.positional).bind
      fun _ _ hpositional =>
      (Operand.evalNamed_isOther s.scope s.look_isOther operands.named).bind fun _ _ hnamed =>
        Logged.meets_pure ⟨hpositional, hnamed⟩
  obtain ⟨hpositional, hnamed⟩ := hargs.good args h
  exact (args.first_cases []).meets (.plain .null) hpositional hnamed

end Session

/-! ## Gifts of a program -/

namespace Session

section Gifts

variable (name : String) (place : Place) (key : String)

/-- What an accepted call gives to a list slot of the node under a name. -/
def gift? (s : Session) (step : Step) : Option Gift :=
  match step with
  | .call subject method operands _ =>
    match Entries.get? s.bindings name, (Operand.evalAll s.scope (some name) operands).1,
      (s.step step).response with
    | some (.object (.node n)), .ok args, .ok .self =>
      if subject = name && n.kind.fills place key method then some args.first.gift else none
    | _, _, _ => none
  | _ => none

/-- The gifts for a list slot of the node under a name after a step. A new node begins anew. -/
def given (s : Session) (gifts : List Gift) (step : Step) : List Gift :=
  match step with
  | .build kind subject operands =>
    match (Operand.evalAll s.scope none operands).1, (s.step step).response with
    | .ok args, .ok _ => if subject = name then kind.firstGifts args else gifts
    | _, _ => gifts
  | _ => gifts ++ (s.gift? name place key step).toList

def giftsFrom (gifts : List Gift) (s : Session) : List Step → List Gift
  | [] => gifts
  | first :: rest => giftsFrom (s.given name place key gifts first) (s.step first).session rest

/-- All gifts of a program for a list slot of the node that is under a name in the end. -/
def gifts (s : Session) (steps : List Step) : List Gift := s.giftsFrom name place key [] steps

/-- A step does not give the node under a name to a list slot of itself. -/
def GivesOther (s : Session) (step : Step) : Prop :=
  ∀ method operands handlers n args, step = .call name method operands handlers →
    Entries.get? s.bindings name = some (.object (.node n)) →
    n.kind.fills place key method = true →
    (Operand.evalAll s.scope (some name) operands).1 = .ok args → args.first.IsOther

/-- No step of a program gives the node under a name to a list slot of itself. -/
def GivesOthers (s : Session) : List Step → Prop
  | [] => True
  | first :: rest => s.GivesOther name place key first ∧ GivesOthers (s.step first).session rest

/-- A list slot of the node under a name holds what it was given. -/
def Listed (s : Session) (gifts : List Gift) : Prop :=
  ∀ n, Entries.get? s.bindings name = some (.object (.node n)) → (place, key) ∈ n.kind.listSlots →
    n.Lists place key (Gift.fillAll n.kind.listStart gifts)

end Gifts

section Calls

variable {s : Session} {name : String} {n : Node} {operands : Operands}
  (hn : Entries.get? s.bindings name = some (.object (.node n)))
include hn

/-- On a node every method is called as it is. -/
theorem step_node (method : String) (handlers : Handlers) :
    s.step (.call name method operands handlers) =
      s.callObject name (.node n) method operands := by
  simp only [step, call, hn]

/-- A call whose operands fail leaves the session and fails. -/
theorem step_node_error (method : String) (handlers : Handlers) {e : OperandFault}
    (heval : (Operand.evalAll s.scope (some name) operands).1 = .error e) :
    let result := s.step (.call name method operands handlers)
    result.session = s ∧ result.response = .error e.toFailure := by
  intro result
  simp only [result, step_node hn, callObject]
  split
  · next fault notices h =>
    rw [h] at heval
    cases heval
    exact ⟨rfl, rfl⟩
  · next args notices h =>
    rw [h] at heval
    cases heval

/-- A call whose operands stand for arguments is a call on the node. -/
theorem step_node_ok (method : String) (handlers : Handlers) {args : Arguments}
    (heval : (Operand.evalAll s.scope (some name) operands).1 = .ok args) :
    let result := s.step (.call name method operands handlers)
    result.session = s.bind name (.object (.node (n.call method args).state)) ∧
      (result.response = .ok .self ↔ (n.call method args).answer = .ok .self) := by
  simp only [step_node hn]
  exact ⟨callObject_session heval, callObject_self_iff heval⟩

variable {place : Place} {key : String}

/-- A call that is accepted gives what its argument is to the slot. -/
theorem gift?_accepted (handlers : Handlers) {args : Arguments}
    (heval : (Operand.evalAll s.scope (some name) operands).1 = .ok args)
    (hanswer : (s.step (.call name method operands handlers)).response = .ok .self)
    (hfills : n.kind.fills place key method = true) :
    s.gift? name place key (.call name method operands handlers) = some args.first.gift := by
  simp only [gift?, hn, heval, hanswer, hfills]
  simp

/-- A call that is refused, or that is about another slot, gives nothing. -/
theorem gift?_refused (handlers : Handlers)
    (h : (s.step (.call name method operands handlers)).response ≠ .ok .self ∨
      n.kind.fills place key method = false) :
    s.gift? name place key (.call name method operands handlers) = none := by
  simp only [gift?, hn]
  split
  · next m args hm heval hanswer =>
    cases hm
    rcases h with hne | hfills
    · exact absurd hanswer hne
    · simp [hfills]
  · rfl

/-- A call on the node under the name adds its gift. -/
theorem Listed.callNode {gifts : List Gift} (h : s.Listed name place key gifts)
    (handlers : Handlers)
    (hother : s.GivesOther name place key (.call name method operands handlers)) :
    (s.step (.call name method operands handlers)).session.Listed name place key
      (s.given name place key gifts (.call name method operands handlers)) := by
  simp only [given]
  cases heval : (Operand.evalAll s.scope (some name) operands).1 with
  | error e =>
    obtain ⟨hsession, hresponse⟩ := step_node_error hn method handlers heval
    have hrefused : (s.step (.call name method operands handlers)).response ≠ .ok .self := by
      rw [hresponse]
      exact fun heq => by cases heq
    rw [hsession, gift?_refused hn handlers (.inl hrefused), Option.toList_none, List.append_nil]
    exact h
  | ok args =>
    obtain ⟨hsession, hself⟩ := step_node_ok hn method handlers heval
    rw [hsession]
    -- The name is bound to the node after the call, and to nothing else.
    intro m hm hslot
    simp only [Session.bind, Entries.get?_set_self, Option.some.injEq, Binding.object.injEq,
      Object.node.injEq] at hm
    subst hm
    rw [n.call_kind] at hslot ⊢
    obtain ⟨hfill, hkeep⟩ := (h n hn hslot).call hslot method args
    by_cases hgiven : n.kind.fills place key method = true ∧
        (s.step (.call name method operands handlers)).response = .ok .self
    · obtain ⟨hfills, hanswer⟩ := hgiven
      rw [gift?_accepted hn handlers heval hanswer hfills, Option.toList_some, Gift.fillAll,
        List.foldl_append]
      have hfirst := hother method operands handlers n args rfl hn hfills heval
      exact hfill hfills (hself.1 hanswer) hfirst
    · have hrefused : (s.step (.call name method operands handlers)).response ≠ .ok .self ∨
          n.kind.fills place key method = false := by
        rw [← Bool.not_eq_true]
        exact (Classical.not_and_iff_not_or_not.1 hgiven).symm
      rw [gift?_refused hn handlers hrefused, Option.toList_none, List.append_nil]
      exact hkeep (hrefused.symm.imp_right (mt hself.2))

end Calls

/-- A new node has its first gifts, and only calls on the node under the name give more. -/
theorem given_eq (s : Session) (name : String) (place : Place) (key : String) (gifts : List Gift)
    (step : Step)
    (hnode : ∀ n method operands handlers, step = .call name method operands handlers →
      Entries.get? s.bindings name ≠ some (.object (.node n))) :
    s.given name place key gifts step =
      match s.event? name step with
      | some (.built kind args) => kind.firstGifts args
      | _ => gifts := by
  have hnothing : gifts ++ (none : Option Gift).toList = gifts := List.append_nil gifts
  cases step with
  | build kind subject operands =>
    simp only [given, event?, Session.step]
    cases Operand.evalAll s.scope none operands with
    | mk result notices =>
      cases result with
      | error e => rfl
      | ok args =>
        dsimp only
        cases (Object.build kind args).answer with
        | error f => rfl
        | ok a =>
          dsimp only
          split <;> rfl
  | call subject method operands handlers =>
    have hgift : s.gift? name place key (.call subject method operands handlers) = none := by
      simp only [gift?]
      split
      · next n args hn _ _ =>
        rw [if_neg]
        simp only [Bool.and_eq_true, decide_eq_true_eq, not_and]
        rintro rfl
        exact absurd hn (hnode n method operands handlers rfl)
      · rfl
    simp only [given, hgift, hnothing]
    split
    · next kind args hbuilt =>
      obtain ⟨_, hstep, -⟩ := step_of_built hbuilt
      cases hstep
    · rfl
  | _ => exact hnothing

namespace Listed

variable {s : Session} {name : String} {place : Place} {key : String} {gifts : List Gift}

/-- A step puts into the slot what it gives. -/
theorem step (h : s.Listed name place key gifts) {step : Step}
    (hother : s.GivesOther name place key step) :
    (s.step step).session.Listed name place key (s.given name place key gifts step) := by
  by_cases hcall : ∃ n method operands handlers, step = .call name method operands handlers ∧
      Entries.get? s.bindings name = some (.object (.node n))
  · obtain ⟨n, method, operands, handlers, rfl, hn⟩ := hcall
    exact h.callNode hn handlers hother
  · rw [given_eq s name place key gifts step fun n method operands handlers hstep hn =>
      hcall ⟨n, method, operands, handlers, hstep, hn⟩]
    intro n hn hslot
    have hhappens := Happens.step s name step
    generalize hevent : s.event? name step = event at hhappens
    cases hhappens with
    | built kind args hanswer hbound =>
      rw [hbound] at hn
      have hstate : (Object.build kind args).state = .node n :=
        Binding.object.inj (Option.some.inj hn)
      obtain ⟨hkind, rfl, hok⟩ := Object.build_node hstate
      obtain ⟨operands, -, heval⟩ := step_of_built hevent
      rw [hkind] at hslot ⊢
      exact Kind.build_lists hslot (hok.trans hanswer) (first_isOther heval)
    | called o method args hbefore hbound =>
      obtain ⟨operands, handlers, rfl, -⟩ := step_of_called hevent
      cases o with
      | node m => exact absurd ⟨m, method, operands, handlers, rfl, hbefore⟩ hcall
      | request r =>
        rw [hbound] at hn
        cases hn
    | kept hkept => exact h n (hkept ▸ hn) hslot
    | rebound id hrebound =>
      rw [hrebound] at hn
      cases hn

/-- After a program the slot holds what its steps gave, in their order. -/
theorem after (steps : List Step) {s : Session} {gifts : List Gift}
    (h : s.Listed name place key gifts) (hothers : s.GivesOthers name place key steps) :
    (s.after steps).Listed name place key (s.giftsFrom name place key gifts steps) := by
  induction steps generalizing s gifts with
  | nil => exact h
  | cons first rest ih => exact ih (h.step hothers.1) hothers.2

end Listed

end Session

/-! ## Lists of nodes -/

namespace Gift

variable {start : Option (List Json)}

theorem fillAll_ones (singles : List Json) (hsingles : singles ≠ []) :
    fillAll start (singles.map .one) = some (start.getD [] ++ singles) := by
  induction singles generalizing start with
  | nil => exact absurd rfl hsingles
  | cons item rest ih =>
    change fillAll (some (start.getD [] ++ [item])) (rest.map .one) = _
    cases rest with
    | nil => rfl
    | cons next rest =>
      rw [ih (List.cons_ne_nil next rest)]
      simp

/-- Only the last list and what was given after it is there. -/
theorem fillAll_list (before : List Gift) (items singles : List Json) :
    fillAll start (before ++ .list items :: singles.map .one) = some (items ++ singles) := by
  have hlist : fillAll start (before ++ .list items :: singles.map .one) =
      fillAll (some items) (singles.map .one) := by
    simp only [fillAll, List.foldl_append, List.foldl_cons, fill]
  rw [hlist]
  cases singles with
  | nil => simp [fillAll]
  | cons item rest => exact fillAll_ones (item :: rest) (List.cons_ne_nil item rest)

end Gift

namespace Session

/-- A list slot holds the last list that was given, with the single nodes given after it. Without a
list it holds the single nodes, and without any gift it is absent, unless it starts empty. Calls
that are not accepted and those of other methods leave it as it is. -/
theorem list_slots (platform : Platform) (steps : List Step) (name : String) (place : Place)
    (key : String) (n : Node) :
    let start : Session := { platform }
    let s := start.after steps
    let gifts := start.gifts name place key steps
    start.GivesOthers name place key steps →
    Entries.get? s.bindings name = some (.object (.node n)) →
    (place, key) ∈ n.kind.listSlots →
    (∀ before items singles, gifts = before ++ .list items :: singles.map .one →
        n.held place key = some (.arr (items ++ singles))) ∧
      (∀ singles, gifts = singles.map .one → singles ≠ [] ∨ n.kind.startsEmpty = true →
        n.held place key = some (.arr singles)) ∧
      (gifts = [] → n.kind.startsEmpty = false → n.held place key = none) ∧
      ∀ method operands handlers,
        let result := s.step (.call name method operands handlers)
        result.response ≠ .ok .self ∨ n.kind.fills place key method = false →
        ∃ m, Entries.get? result.session.bindings name = some (.object (.node m)) ∧
          m.held place key = n.held place key := by
  intro start s gifts hothers hn hslot
  have hstart : start.Listed name place key [] := fun _ hnone => by cases hnone
  have hlists := hstart.after steps hothers n hn hslot
  have hheld : n.held place key = (Gift.fillAll n.kind.listStart gifts).map .arr := hlists.held_eq
  refine ⟨?_, ?_, ?_, ?_⟩
  · intro before items singles hgifts
    rw [hheld, hgifts, Gift.fillAll_list]
    rfl
  · intro singles hgifts hstarts
    rw [hheld, hgifts]
    cases singles with
    | nil =>
      have hempty := hstarts.resolve_left (not_not_intro rfl)
      simp [Gift.fillAll, Kind.listStart, hempty]
    | cons item rest =>
      have hnothing : n.kind.listStart.getD [] = [] := by
        unfold Kind.listStart
        split <;> rfl
      rw [Gift.fillAll_ones _ (List.cons_ne_nil item rest), hnothing]
      rfl
  · intro hgifts hstarts
    rw [hheld, hgifts]
    simp [Gift.fillAll, Kind.listStart, hstarts]
  · intro method operands handlers result hrefused
    cases heval : (Operand.evalAll s.scope (some name) operands).1 with
    | error e =>
      obtain ⟨hsession, -⟩ := step_node_error hn method handlers heval
      exact ⟨n, by rw [hsession]; exact hn, rfl⟩
    | ok args =>
      obtain ⟨hsession, hself⟩ := step_node_ok hn method handlers heval
      refine ⟨(n.call method args).state, ?_, ?_⟩
      · rw [hsession]
        exact Entries.get?_set_self _ _ _
      · have hkeep := (hlists.call hslot method args).2 (hrefused.symm.imp_right (mt hself.2))
        rw [hheld, hkeep.held_eq]
        rfl

/-- A query that changes between the calls by which it is put into another. -/
def changingChild : List Step :=
  [.build (.query .matchAll) "c" {}, .build (.query .bool) "q" {},
    .call "q" "must" { positional := [.ref "c"] } {},
    .call "c" "boost" { positional := [.plain (.int 2)] } {},
    .call "q" "must" { positional := [.list [.ref "c"]] } {},
    .call "q" "must" { positional := [.plain (.int 5)] } {},
    .call "c" "boost" { positional := [.plain (.int 3)] } {},
    .call "q" "must" { positional := [.ref "c"] } {}]

theorem changingChild_list_slots :
    let boosted (i : Int) : Json := .obj [("match_all", .obj [("boost", .int i)])]
    ({} : Session).GivesOthers "q" .body "must" changingChild ∧
      ∃ n, Entries.get? (({} : Session).after changingChild).bindings "q" =
          some (.object (.node n)) ∧
        (.body, "must") ∈ n.kind.listSlots ∧
        n.held .body "must" = some (.arr [boosted 2, boosted 3]) := by
  intro boosted
  have hothers : ({} : Session).GivesOthers "q" .body "must" changingChild := by
    have hchild (s : Session) (operands : Operands) :
        s.GivesOther "q" .body "must" (.call "c" "boost" operands {}) := by
      intro _ _ _ _ _ hstep
      exact absurd (Step.call.inj hstep).1 (by decide)
    refine ⟨?_, ?_, ?_, hchild _ _, ?_, ?_, hchild _ _, ?_, trivial⟩ <;>
      intro method operands handlers n args hstep _ _ heval <;> cases hstep <;> cases heval
    · exact .node _
    · refine .list fun item hitem => ?_
      rw [List.mem_singleton.1 hitem]
      exact Argument.noConfusion
    · exact .plain _
    · exact .node _
  refine ⟨hothers, _, rfl, List.mem_cons_self, ?_⟩
  exact (list_slots {} changingChild "q" .body "must" _ hothers rfl
    List.mem_cons_self).1 [.one (.obj [("match_all", .obj [])])] [boosted 2] [boosted 3] rfl

end Session

end SearchBuilder
