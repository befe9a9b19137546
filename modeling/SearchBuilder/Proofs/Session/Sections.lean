import SearchBuilder.Proofs.Document.Merging
import SearchBuilder.Proofs.Request.Target
import SearchBuilder.Proofs.Session.History

/-!
# The sections of a session

The sections of a request and of an aggregation hold the entries that were accepted, one for each
name, whatever else is called and whatever happens later to the nodes that were put in. The entries
are read off the history of the object (`Object.History.Replays`), be it under a name or built on
the spot, at any depth (`Session.sections_replayed`).
-/

namespace SearchBuilder

/-! ## Accepted entries -/

namespace Object

/-- The argument that a call adds to a section, if the call is accepted. -/
def addition? (o : Object) (key : String) (call : String × Arguments) : Option Argument :=
  match (o.call call.1 call.2).answer with
  | .ok .self => if Entries.get? sectionMethods call.1 = some key then some call.2.first else none
  | _ => none

/-- The arguments that calls add to a section, one after the other. -/
def accepted (o : Object) (key : String) : List (String × Arguments) → List Argument
  | [] => []
  | call :: rest => (o.addition? key call).toList ++ (o.call call.1 call.2).state.accepted key rest

/-- What a section holds, if it is there. -/
def sectionAt (o : Object) (key : String) : Option Json :=
  o.toNode.fragment.part? (o.toNode.path o.kind.sectionPlace ++ [key])

variable {o : Object} {key : String}

/-- A call adds what it is given to the section of its method, if it is accepted. -/
theorem addition?_eq_some {call : String × Arguments} {v : Argument} :
    o.addition? key call = some v ↔ Entries.get? sectionMethods call.1 = some key ∧
      (o.call call.1 call.2).answer = .ok .self ∧ call.2.first = v := by
  unfold addition?
  split
  · next hanswer => simp [hanswer]
  · next hanswer =>
    refine ⟨fun h => (by cases h), fun ⟨_, haccepted, _⟩ => absurd haccepted ?_⟩
    exact hanswer

theorem mem_accepted {calls : List (String × Arguments)} {v : Argument}
    (h : v ∈ o.accepted key calls) : ∃ call ∈ calls, call.2.first = v := by
  induction calls generalizing o with
  | nil => cases h
  | cons call rest ih =>
    rcases List.mem_append.1 h with hfirst | hrest
    · exact ⟨call, List.mem_cons_self, (addition?_eq_some.1 (Option.mem_toList.1 hfirst)).2.2⟩
    · obtain ⟨later, hlater, hv⟩ := ih hrest
      exact ⟨later, List.mem_cons_of_mem _ hlater, hv⟩

/-- A call on an object is a call on the node that it is about, unless it is about the target of a
request. -/
theorem call_cases (o : Object) (method : String) (args : Arguments) :
    (o.call method args).state.toNode = (o.toNode.call method args).state ∧
        (o.call method args).answer = (o.toNode.call method args).answer ∨
      (o.call method args).state.toNode = o.toNode ∧
        Entries.get? Request.targetMethods method ≠ none := by
  cases o with
  | node n => exact .inl ⟨rfl, rfl⟩
  | request r =>
    simp only [call, Request.call]
    cases htarget : Entries.get? Request.targetMethods method with
    | none => exact .inl ⟨rfl, rfl⟩
    | some m => exact .inr ⟨m.run_body r args, Option.some_ne_none m⟩

theorem ne_sectionMethods {method : String} (h : Entries.get? Request.targetMethods method ≠ none)
    (key : String) : Entries.get? sectionMethods method ≠ some key := by
  have htable : ∀ entry ∈ sectionMethods, Entries.get? Request.targetMethods entry.1 = none := by
    decide
  exact fun hkey => h (htable _ (Entries.mem_of_get? hkey))

variable {given : List (String × Json)}

/-- One call adds to a section what it is given, if it is accepted, and else leaves it. -/
theorem call_collects (h : o.toNode.Collects key given) (hkey : key ∈ o.kind.namedSections)
    {call : String × Arguments} (hargs : ∀ child, call.2.first = .node child → child.IsEntry) :
    (∀ v, o.addition? key call = some v →
        v = .receiver ∧ o.kind ≠ .request ∨ v.MakesEntry key ∧
          (o.call call.1 call.2).state.toNode.Collects key (given ++ [v.entry])) ∧
      (o.addition? key call = none → (o.call call.1 call.2).state.toNode.Collects key given) := by
  obtain ⟨hadds, hkeeps⟩ := h.call hkey call.1 call.2 hargs
  rcases o.call_cases call.1 call.2 with ⟨hstate, hanswer⟩ | ⟨hstate, htarget⟩
  · rw [hstate]
    refine ⟨fun v hv => ?_, fun hnone => hkeeps ?_⟩
    · obtain ⟨hmethod, haccepted, rfl⟩ := addition?_eq_some.1 hv
      exact hadds hmethod (hanswer ▸ haccepted)
    · refine Classical.not_and_iff_not_or_not.1 fun ⟨hmethod, haccepted⟩ => ?_
      have hadded := addition?_eq_some.2 ⟨hmethod, hanswer.trans haccepted, rfl⟩
      rw [hnone] at hadded
      cases hadded
  · refine ⟨fun v hv => absurd (addition?_eq_some.1 hv).1 (ne_sectionMethods htarget key), ?_⟩
    exact fun _ => hstate.symm ▸ h

/-- A section holds what was accepted, after any calls. -/
theorem after_collects {calls : List (String × Arguments)} (h : o.toNode.Collects key given)
    (hkey : key ∈ o.kind.namedSections)
    (hargs : ∀ call ∈ calls, ∀ child, call.2.first = .node child → child.IsEntry)
    (hself : o.kind ≠ .request → .receiver ∉ o.accepted key calls) :
    (o.after calls).toNode.Collects key (given ++ (o.accepted key calls).map Argument.entry) ∧
      ∀ v ∈ o.accepted key calls, v.MakesEntry key := by
  induction calls generalizing o given with
  | nil => exact ⟨(List.append_nil given).symm ▸ h, fun _ hv => by cases hv⟩
  | cons call rest ih =>
    have hkind := o.call_kind call.1 call.2
    have hrest (h' : (o.call call.1 call.2).state.toNode.Collects key
        (given ++ (o.addition? key call).toList.map Argument.entry)) := by
      refine ih h' (hkind.symm ▸ hkey) (List.forall_mem_cons.1 hargs).2 fun hrequest hmem => ?_
      exact hself (hkind ▸ hrequest) (List.mem_append_right _ hmem)
    obtain ⟨hadds, hkeeps⟩ := call_collects h hkey (hargs call List.mem_cons_self)
    simp only [accepted, List.map_append, ← List.append_assoc]
    cases hadded : o.addition? key call with
    | none =>
      rw [hadded] at hrest
      exact hrest ((List.append_nil given).symm ▸ hkeeps hadded)
    | some v =>
      rw [hadded] at hrest
      rcases hadds v hadded with ⟨rfl, hrequest⟩ | ⟨hentry, hcollects⟩
      · refine absurd (List.mem_append_left _ ?_) (hself hrequest)
        rw [hadded]
        exact List.mem_singleton_self _
      · obtain ⟨hafter, hentries⟩ := hrest hcollects
        exact ⟨hafter, List.forall_mem_cons.2 ⟨hentry, hentries⟩⟩

end Object

/-! ## Library nodes -/

/-- Whatever foreign nodes are used, those that stand under a name have one member. -/
def Discipline.library : Discipline where
  uses := Child.IsEntry
  builds _ _ := True
  calls _ _ _ := True

/-- In programs of concrete kinds all named documents are envelopes of their names. -/
theorem Discipline.library_keeps : Discipline.library.Keeps
    (fun o => o.kind.isNamed = true → o.toNode.Enveloped) Child.IsEntry fun _ => True where
  uses _ h := h
  view := by
    intro o ho c hcategory hc
    obtain ⟨body, hbody⟩ := ho (Kind.isNamed_of_category hcategory hc)
    exact ⟨o.toNode.slot, body, hbody⟩
  build := by
    refine fun k args _ _ => ⟨fun _ _ hk => ?_, fun _ _ => trivial⟩
    rw [Object.build_kind] at hk
    cases k <;> first | exact Kind.build_enveloped hk args | cases hk
  call := by
    refine fun o method args ho _ _ => ⟨fun hk => ?_, fun _ _ => trivial⟩
    rw [Object.call_kind] at hk
    rcases o.call_cases method args with ⟨hstate, -⟩ | ⟨hstate, -⟩
    · exact hstate.symm ▸ (ho hk).call hk method args
    · exact hstate.symm ▸ ho hk

/-! ## Sections of histories -/

/-- What a section holds is what was given. -/
structure Merges (held : Option Json) (given : List (String × Json)) : Prop where
  absent_iff : held = none ↔ given = []
  /-- Each name is there once, in the order in which the names were first given, and holds what was
  given last under it. -/
  members : ∀ value, held = some value → ∃ members, value = .obj members ∧
    members.map (·.1) = (given.map (·.1)).eraseDups ∧ (members.map (·.1)).Nodup ∧
    ∀ name, Entries.get? members name = (given.reverse.find? (·.1 = name)).map (·.2)

/-- Merging what is given in its order collects it. -/
theorem merges_merged (given : List (String × Json)) : Merges (merged given) given where
  absent_iff := by
    cases given with
    | nil => exact ⟨fun _ => rfl, fun _ => rfl⟩
    | cons entry rest => exact ⟨fun h => (by cases h), fun h => (by cases h)⟩
  members := by
    intro value hvalue
    unfold merged at hvalue
    split at hvalue
    · cases hvalue
    · have hkeys := Entries.keys_ofList given
      refine ⟨Entries.ofList given, (Option.some.inj hvalue).symm, hkeys, ?_, ?_⟩
      · exact hkeys ▸ nodup_eraseDups _
      · exact Entries.get?_ofList given

theorem Node.Collects.sectionAt {o : Object} {key : String} {given : List (String × Json)}
    (h : o.toNode.Collects key given) : o.sectionAt key = merged given := by
  have hpart := o.toNode.fragment.part?_eq_look
    (o.toNode.spotPath_ne_nil (.option o.kind.sectionPlace key))
  exact hpart.trans (congrArg Option.join h.held)

namespace Object.History

/-- What the calls of a history added to a section. -/
def accepted (h : History) (key : String) : List Argument := h.origin.accepted key h.calls

/-- All sections of an object hold what its history added to them, unless an aggregation was put
into itself or a generic one has its settings under the key of the section. -/
def Replays (h : History) : Prop :=
  ∀ key ∈ h.object.kind.namedSections,
    (h.object.kind.isTypedByUser = true → h.origin.toNode.inner ≠ key) →
    (h.object.kind ≠ .request → .receiver ∉ h.accepted key) →
    Merges (h.object.sectionAt key) ((h.accepted key).map Argument.entry) ∧
      ∀ v ∈ h.accepted key, v.MakesEntry key

/-- What explains an object replays its sections. -/
theorem Explains.replays {h : History} {o : Object} (hh : h.Explains Child.IsEntry o) :
    h.Replays := by
  intro key hkey htype hself
  obtain ⟨k, args, hbuilt⟩ := hh.built
  have hkind : h.object.kind = h.origin.kind := h.origin.after_kind h.calls
  have horigin : h.origin.kind = k := by
    rw [hbuilt]
    exact Object.build_kind k args
  rw [hkind, horigin] at hkey htype
  have hnode : h.origin.toNode = (k.build args).state := by
    rw [hbuilt]
    cases k with
    | request => exact Request.build_body args
    | aggregation k => rfl
    | _ => cases hkey
  have hempty : h.origin.toNode.Collects key [] := by
    rw [hnode] at htype ⊢
    exact Kind.build_collects hkey args htype
  have hentry (call : String × Arguments) (hcall : call ∈ h.calls) (child : Child)
      (hchild : call.2.first = .node child) : child.IsEntry := by
    have hshown := (hh.shown call hcall).first []
    rw [hchild] at hshown
    cases hshown with
    | node hview => exact hview
  obtain ⟨hcollects, hentries⟩ := Object.after_collects hempty (horigin.symm ▸ hkey) hentry
    (hkind ▸ hself)
  exact ⟨hcollects.sectionAt ▸ merges_merged _, hentries⟩

end Object.History

namespace Session

/-- The sections of every object hold the entries that were accepted, under the names of a session
and at any depth of what is built on the spot; metrics accept none. -/
theorem sections_replayed (platform : Platform) (steps : List Step)
    (hsteps : ({ platform } : Session).Obeys .library steps) :
    let start : Session := { platform }
    let s := start.after steps
    (∀ name o, Entries.get? s.bindings name = some (.object o) →
        ∃ h, start.history name steps = some h ∧ h.object = o ∧ h.Replays) ∧
      (∀ receiver kind operands calls child,
        let fresh : Operand := .fresh kind operands.positional operands.named calls
        fresh.Obeys .library s.scope → (fresh.eval s.scope receiver).1 = .ok (.node child) →
        ∃ h, Operand.history? s.scope kind operands calls = some h ∧ h.object.toChild = child ∧
          h.Replays ∧ ∀ key, .receiver ∉ h.accepted key) ∧
      ∀ n : Node, n.kind.isMetric = true → ∀ method,
        Entries.get? sectionMethods method = some "aggs" → ∀ args,
        (n.call method args).state = n ∧ (n.call method args).answer ≠ .ok .self := by
  intro start s
  have hstart := all_start platform fun o => o.kind.isNamed = true → o.toNode.Enveloped
  have hs := Discipline.library_keeps.after steps hstart hsteps
  refine ⟨fun name o ho => ?_, ?_, fun n hn method hmethod args => n.call_metric hn hmethod args⟩
  · have hnone : start.Recorded Child.IsEntry name none := fun o ho => by cases ho
    obtain ⟨h, hhistory, hexplains⟩ :=
      hnone.after Discipline.library_keeps steps hstart hsteps o ho
    exact ⟨h, hhistory, hexplains.object, hexplains.replays⟩
  · intro receiver kind operands calls child fresh hobeys heval
    obtain ⟨h, hhistory, hchild, hexplains, hother⟩ := Operand.exists_history heval
      Discipline.library_keeps (hs.look Discipline.library_keeps.view) s.look_isOther hobeys
    refine ⟨h, hhistory, hchild, hexplains.replays, fun key hself => ?_⟩
    obtain ⟨call, hcall, hfirst⟩ := Object.mem_accepted hself
    exact hother call hcall hfirst

/-- An average that is put into a request twice, with a text to suggest for and a refused facet. -/
def repeatedAverage : List Step :=
  [.build (.aggregation .avg) "a" { positional := [.plain (.str "price")] },
    .build .request "r" {},
    .call "r" "agg" { positional := [.ref "a"] } {},
    .call "r" "aggregation" { positional := [.fresh (.aggregation .global) [.plain (.str "all")] []
      [("agg", [.ref "a"])]] } {},
    .call "a" "field" { positional := [.plain (.str "cost")] } {},
    .call "r" "facet" { positional := [.ref "a"] } {},
    .call "r" "agg" { positional := [.ref "a"] } {},
    .call "r" "suggest" { positional := [.plain (.str "shoes")] } {}]

theorem repeatedAverage_sections :
    let average (settings : Entries Json) : Json := .obj [("avg", .obj settings)]
    ({} : Session).Obeys .library repeatedAverage ∧
      ∃ o, Entries.get? (({} : Session).after repeatedAverage).bindings "r" = some (.object o) ∧
        (∃ members, o.sectionAt "aggs" = some (.obj members) ∧
          members.map (·.1) = ["price", "all"] ∧
          Entries.get? members "price" = some (average [("field", .str "cost")]) ∧
          Entries.get? members "all" = some (.obj [("global", .obj []),
            ("aggs", .obj [("price", average [])])])) ∧
        o.sectionAt "facets" = none := by
  intro average
  have hobeys : ({} : Session).Obeys .library repeatedAverage := by
    have hfresh (s : Session) : Operand.Obeys .library s.scope
        (.fresh (.aggregation .global) [.plain (.str "all")] [] [("agg", [.ref "a"])]) := by
      simp [Operand.Obeys, Operand.AllObey, Operand.NamedObey, Operand.CallsObey,
        Discipline.library]
    have hcall (s : Session) {name method : String} {operand : Operand}
        (hoperand : operand.Obeys .library s.scope) :
        (Step.call name method { positional := [operand] } {}).Obeys .library s :=
      ⟨⟨⟨hoperand, trivial⟩, trivial⟩, fun _ _ _ _ _ => trivial⟩
    exact ⟨⟨⟨⟨trivial, trivial⟩, trivial⟩, fun _ _ => trivial⟩,
      ⟨⟨trivial, trivial⟩, fun _ _ => trivial⟩, hcall _ trivial, hcall _ (hfresh _),
      hcall _ trivial, hcall _ trivial, hcall _ trivial, hcall _ trivial, trivial⟩
  obtain ⟨o, ho⟩ : ∃ o, Entries.get? (({} : Session).after repeatedAverage).bindings "r" =
      some (.object o) := ⟨_, rfl⟩
  obtain ⟨h, hhistory, rfl, hreplays⟩ :=
    (sections_replayed {} repeatedAverage hobeys).1 "r" o ho
  have hfacts : (({} : Session).history "r" repeatedAverage).map (fun h => (h.object.kind,
      (h.accepted "aggs").map Argument.entry, (h.accepted "facets").map Argument.entry)) =
      some (.request, [("price", average []), ("all", .obj [("global", .obj []), ("aggs",
        .obj [("price", average [])])]), ("price", average [("field", .str "cost")])], []) := rfl
  rw [hhistory] at hfacts
  simp only [Option.map_some, Option.some.injEq, Prod.mk.injEq] at hfacts
  obtain ⟨hkind, haggs, hfacets⟩ := hfacts
  have hmerges (key : String) (hkey : key ∈ Kind.request.namedSections) :=
    (hreplays key (hkind ▸ hkey) (fun htyped => by rw [hkind] at htyped; cases htyped)
      fun hother => absurd hkind hother).1
  refine ⟨hobeys, h.object, ho, ?_, (hmerges "facets" (by decide)).absent_iff.2 hfacets⟩
  have hmembers := hmerges "aggs" (by decide)
  rw [haggs] at hmembers
  obtain ⟨value, hvalue⟩ := Option.ne_none_iff_exists'.1 fun hnone =>
    absurd (hmembers.absent_iff.1 hnone) (List.cons_ne_nil _ _)
  obtain ⟨members, rfl, hnames, -, hget⟩ := hmembers.members value hvalue
  exact ⟨members, hvalue, hnames, hget "price", hget "all"⟩

end Session

end SearchBuilder
