import SearchBuilder.Proofs.Session.Events
import SearchBuilder.Proofs.Session.Shape

/-!
# The documents of a session

In a program that builds concrete kinds only and uses no foreign nodes, every node is a document of
its category after every step, whatever calls fail and whatever is put into what
(`Session.documents`). Queries and filters stand under the key of their kind; aggregations, facets,
suggesters and script fields stand under the name that they were given when they were built, which
`Session.labels` follows through the program.
-/

namespace SearchBuilder

/-! ## Labels -/

/-- The name that the construction of an aggregation, facet, suggester or script field is given. -/
def Kind.givenLabel (k : Kind) (args : Arguments) : String :=
  match k with
  | aggregation _ => (args.first ["agg_type"]).name
  | suggester _ => (args.first ["suggest_type"]).name
  | _ => args.first.name

/-- The object that a step binds to a name when it succeeds in building one, with its label. -/
def Step.label? (s : Session) : Step → Option (String × String)
  | .build kind name operands =>
    match (Operand.evalAll s.scope none operands).1 with
    | .ok args =>
      match (Object.build kind args).answer with
      | .ok _ => some (name, kind.givenLabel args)
      | .error _ => none
    | .error _ => none
  | _ => none

/-- The labels of the objects under all names after a step. -/
def Session.label (s : Session) (labels : Entries String) (step : Step) : Entries String :=
  match step.label? s with
  | some (name, label) => Entries.set labels name label
  | none => labels

/-- The labels of the objects under all names after some steps. -/
def Session.labelsFrom (labels : Entries String) (s : Session) : List Step → Entries String
  | [] => labels
  | first :: rest => labelsFrom (s.label labels first) (s.step first).session rest

/-- The labels of the objects under all names after some steps, none of them being there before. -/
def Session.labels (s : Session) (steps : List Step) : Entries String :=
  labelsFrom [] s steps

theorem Kind.build_slot {k : Kind} (h : k.isNamed = true) (args : Arguments) :
    (k.build args).state.slot = k.givenLabel args := by
  cases k with
  | aggregation k => cases k <;> rfl
  | facet k => cases k <;> rfl
  | suggester k => cases k <;> rfl
  | scriptField => rfl
  | _ => cases h

/-- What is built as a node is built as one of its kind. -/
theorem Object.build_node {k : Kind} {args : Arguments} {n : Node}
    (h : (Object.build k args).state = .node n) : n.kind = k ∧ (k.build args).state = n ∧
      (k.build args).answer = (Object.build k args).answer := by
  have hkind := Object.build_kind k args
  rw [h] at hkind
  refine ⟨hkind, ?_⟩
  cases k <;> first | exact ⟨Object.node.inj h, rfl⟩ | cases h

/-- The named nodes of a session stand under their labels. -/
def Session.Labelled (s : Session) (labels : Entries String) : Prop :=
  ∀ name n, Entries.get? s.bindings name = some (.object (.node n)) → n.kind.isNamed = true →
    Entries.get? labels name = some n.slot

namespace Session.Labelled

variable {s : Session} {labels : Entries String}

/-- A new object stands under the label that it is given, all else under the label that it has. -/
theorem get?_label (s : Session) (labels : Entries String) (step : Step) (name : String) :
    Entries.get? (s.label labels step) name =
      match s.event? name step with
      | some (.built kind args) => some (kind.givenLabel args)
      | _ => Entries.get? labels name := by
  cases step with
  | build kind subject operands =>
    simp only [Session.label, Step.label?, event?]
    cases (Operand.evalAll s.scope none operands).1 with
    | error e => rfl
    | ok args =>
      dsimp only
      cases (Object.build kind args).answer with
      | error f => rfl
      | ok a =>
        dsimp only
        rw [Entries.get?_set]
        split <;> rfl
  | call subject method operands handlers =>
    split
    · next kind args hbuilt =>
      obtain ⟨_, hstep, -⟩ := step_of_built hbuilt
      cases hstep
    · rfl
  | _ => rfl

theorem step (h : s.Labelled labels) (step : Step) :
    (s.step step).session.Labelled (s.label labels step) := by
  intro name n hn hnamed
  rw [get?_label]
  have hhappens := Happens.step s name step
  generalize s.event? name step = event at hhappens
  cases hhappens with
  | built kind args hanswer hbound =>
    rw [hbound] at hn
    have hstate : (Object.build kind args).state = .node n :=
      Binding.object.inj (Option.some.inj hn)
    obtain ⟨hkind, hnode, -⟩ := Object.build_node hstate
    rw [← hnode, Kind.build_slot (hkind ▸ hnamed)]
  | called o method args hbefore hbound =>
    rw [hbound] at hn
    cases o with
    | request r => cases hn
    | node m =>
      obtain rfl : (m.call method args).state = n :=
        Object.node.inj (Binding.object.inj (Option.some.inj hn))
      rw [Node.call_kind] at hnamed
      rw [Node.call_slot hnamed]
      exact h name m hbefore hnamed
  | kept hkept => exact h name n (hkept ▸ hn) hnamed
  | rebound id hrebound =>
    rw [hrebound] at hn
    cases hn

/-- All named nodes stand under their labels after a program. -/
theorem after (steps : List Step) {s : Session} {labels : Entries String} (h : s.Labelled labels) :
    (s.after steps).Labelled (s.labelsFrom labels steps) := by
  induction steps generalizing s labels with
  | nil => exact h
  | cons first rest ih => exact ih (h.step first)

end Session.Labelled

/-! ## Documents -/

/-- What the fragment of a node looks like, under a label if its kind is given one. -/
def Kind.Describes (k : Kind) (label : Option String) (fragment : Json) : Prop :=
  match k with
  | query q => ∃ body, fragment = .obj [(q.discriminator, .obj body)] ∧ Fits q.slots body
  | filter f => ∃ body, fragment = .obj [(f.discriminator, .obj body)] ∧ Fits f.slots body
  | aggregation _ | facet _ | suggester _ | scriptField =>
    ∃ name body, label = some name ∧ fragment = .obj [(name, .obj body)] ∧ Fits k.bodySlots body
  | _ => ∃ c, k.category = some c ∧ IsDocument (.category c) fragment

/-- An object is a document of its kind. -/
def Object.IsDocument (label : Option String) : Object → Prop
  | .request r => Kind.request.Describes label r.body.fragment
  | .node n => n.kind.Describes label n.fragment

namespace Node.Shaped

variable {safe : Prop} {n : Node}

/-- A node of good shape that is named stands under its slot. -/
theorem exists_labelled (h : n.Shaped safe) (hseal : n.kind.isSealed = true) {label : Option String}
    (hlabel : label = some n.slot) :
    ∃ name body, label = some name ∧ n.fragment = .obj [(name, .obj body)] ∧
      Fits n.kind.bodySlots body := by
  obtain ⟨body, hbody, hfits⟩ := h.exists_envelope hseal
  exact ⟨n.slot, body, hlabel, hbody, hfits⟩

theorem describes (h : n.Shaped safe) {label : Option String}
    (hlabel : n.kind.isNamed = true → label = some n.slot) :
    n.kind.Describes label n.fragment := by
  have hnamed (hseal : n.kind.isSealed = true) (hslot : label = some n.slot) :=
    h.exists_labelled hseal hslot
  have hconcrete := h.concrete
  cases hkind : n.kind with
  | query k => exact (h.exists_query hkind).2
  | filter k => exact (h.exists_filter hkind).2
  | aggregation k | facet k | suggester k | scriptField =>
    rw [hkind] at hnamed hlabel
    exact hnamed rfl (hlabel rfl)
  | plain =>
    rw [hkind] at hconcrete
    cases hconcrete
  | _ => exact ⟨_, rfl, h.isDocument (by rw [hkind]; rfl)⟩

end Node.Shaped

theorem Object.Shaped.isDocument {safe : Prop} {o : Object} (ho : o.Shaped safe)
    {label : Option String}
    (hlabel : ∀ n, o = .node n → n.kind.isNamed = true → label = some n.slot) :
    o.IsDocument label := by
  cases o with
  | request r =>
    obtain ⟨hkind, hshaped⟩ := ho
    have hlabelled (hnamed : r.body.kind.isNamed = true) : label = some r.body.slot := by
      rw [hkind] at hnamed
      cases hnamed
    have hdescribes := hshaped.describes hlabelled
    rw [hkind] at hdescribes
    exact hdescribes
  | node n => exact ho.2.describes (hlabel n rfl)

/-- Concrete kinds are built and no foreign nodes are used; calls may be any. -/
def Discipline.concrete : Discipline where
  uses _ := False
  builds k _ := k.isConcrete = true
  calls _ _ _ := True

/-- Such programs keep all objects of good shape. -/
theorem Discipline.concrete_keeps : Discipline.concrete.Keeps (Object.Shaped False) Child.Genuine
    fun fault => False → ∃ cause, fault = .misuse cause :=
  Discipline.keeps_shaped (fun _ => id) (fun _ _ h => ⟨h, False.elim⟩) fun _ _ _ _ _ => False.elim

namespace Session

/-- After every step of a program that builds concrete kinds only, every object is a document. -/
theorem documents (platform : Platform) (steps : List Step)
    (h : ({ platform } : Session).Obeys .concrete steps) (k : Nat) :
    let start : Session := { platform }
    ∀ name o, Entries.get? (start.after (steps.take k)).bindings name = some (.object o) →
      o.IsDocument (Entries.get? (start.labels (steps.take k)) name) := by
  intro start name o ho
  have hshaped := Discipline.concrete_keeps.after (steps.take k) (all_start platform _) (h.take k)
  have hstart : start.Labelled [] := fun _ _ hn => by cases hn
  refine (hshaped name o ho).isDocument fun n hn hnamed => ?_
  subst hn
  exact hstart.after (steps.take k) name n ho hnamed

/-- A bool query that is put into itself and refuses a filter. -/
def nestedBool : List Step :=
  [.build (.query .bool) "q" {}, .call "q" "must" { positional := [.ref "q"] } {},
    .call "q" "should" { positional := [.fresh (.filter .matchAll) [] [] []] } {}]

theorem nestedBool_documents :
    ({} : Session).Obeys .concrete nestedBool ∧
      ∀ o, Entries.get? (({} : Session).after (nestedBool.take 3)).bindings "q" =
        some (.object o) →
      o.IsDocument (Entries.get? (({} : Session).labels (nestedBool.take 3)) "q") := by
  have hobeys : ({} : Session).Obeys .concrete nestedBool := by
    refine ⟨⟨⟨trivial, trivial⟩, fun _ _ => rfl⟩,
      ⟨⟨⟨trivial, trivial⟩, trivial⟩, fun _ _ _ _ _ => trivial⟩,
      ⟨⟨⟨?_, trivial⟩, trivial⟩, fun _ _ _ _ _ => trivial⟩, trivial⟩
    simp only [Operand.Obeys, Operand.AllObey, Operand.NamedObey, Operand.CallsObey, true_and]
    exact fun _ _ _ => rfl
  exact ⟨hobeys, fun o ho => documents {} nestedBool hobeys 3 "q" o ho⟩

end Session

end SearchBuilder
