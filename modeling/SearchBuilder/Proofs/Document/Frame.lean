import SearchBuilder.Proofs.Json.Entries
import SearchBuilder.Session.Object

/-!
# What calls leave alone

No call changes the kind of an object (`Object.call_kind`). The slot changes only where a sort
clause or a decay function is put under another key, so the names of aggregations, facets,
suggesters and script fields are there for good (`Node.call_slot`).
-/

namespace SearchBuilder

/-- A later state of a node, of the same kind and under the same slot. -/
structure Node.Keeps (n m : Node) : Prop where
  kind : m.kind = n.kind
  slot : m.slot = n.slot

namespace Node

namespace Keeps

theorem refl (n : Node) : n.Keeps n := ⟨rfl, rfl⟩

theorem of_eq {n m : Node} (h : m = n) : n.Keeps m := h ▸ refl n

theorem trans {n m p : Node} (h : n.Keeps m) (h' : m.Keeps p) : n.Keeps p :=
  ⟨h'.kind.trans h.kind, h'.slot.trans h.slot⟩

end Keeps

variable (n : Node)

theorem replace_keeps (place : Place) (value : Json) : n.Keeps (n.replace place value) := by
  cases place <;> exact ⟨rfl, rfl⟩

theorem readPart_state (path : Path) : (n.readPart path).state = n := by
  unfold readPart
  split <;> rfl

theorem readThrough_state (path : Path) : (n.readThrough path).state = n := by
  unfold readThrough
  split
  · exact n.readPart_state path
  · rfl

theorem readOption_state (place : Place) (key : String) : (n.readOption place key).state = n := by
  unfold readOption
  split
  · exact n.readPart_state _
  · rfl

theorem readHeld_state (place : Place) (key : String) : (n.readHeld place key).state = n := by
  unfold readHeld
  split
  · split
    · exact n.readPart_state _
    · rfl
  · rfl

theorem readPart_keeps (path : Path) : n.Keeps (n.readPart path).state :=
  .of_eq (n.readPart_state path)

theorem readThrough_keeps (path : Path) : n.Keeps (n.readThrough path).state :=
  .of_eq (n.readThrough_state path)

theorem readOption_keeps (place : Place) (key : String) :
    n.Keeps (n.readOption place key).state := .of_eq (n.readOption_state place key)

theorem readHeld_keeps (place : Place) (key : String) : n.Keeps (n.readHeld place key).state :=
  .of_eq (n.readHeld_state place key)

theorem writeOption_keeps (place : Place) (key : String) (value : Json) :
    n.Keeps (n.writeOption place key value).state := by
  unfold writeOption
  split
  · exact n.replace_keeps _ _
  · exact .refl n

theorem openSlot_keeps {place : Place} {key : String} {start : Json} {opened : Node}
    (h : n.openSlot place key start = .ok opened) : n.Keeps opened := by
  unfold openSlot at h
  split at h
  · cases h
    exact n.replace_keeps _ _
  · cases h

theorem appendItem_keeps (place : Place) (key : String) (item : Node → Json) :
    n.Keeps (n.appendItem place key item).state := by
  unfold appendItem
  split
  · exact .refl n
  · next opened hopen =>
    dsimp only
    split
    · exact (n.openSlot_keeps hopen).trans (opened.replace_keeps _ _)
    · exact n.openSlot_keeps hopen

theorem appendHeld_keeps (place : Place) (key : String) (item : Json) :
    n.Keeps (n.appendHeld place key item).state := by
  unfold appendHeld
  split
  · split
    · exact n.replace_keeps _ _
    · exact .refl n
    · exact .refl n
  · exact .refl n

theorem mergeSection_keeps (place : Place) (key : String) (addition : Node → Json) :
    n.Keeps (n.mergeSection place key addition).state := by
  unfold mergeSection
  split
  · exact .refl n
  · next opened hopen =>
    have hopened := n.openSlot_keeps hopen
    dsimp only
    split
    · exact hopened.trans (opened.replace_keeps _ _)
    · exact hopened
    · exact hopened
    · exact hopened

theorem renameInner_keeps (name : String) : n.Keeps (n.renameInner name).state := by
  unfold renameInner
  split
  · exact ⟨rfl, rfl⟩
  · exact .refl n

theorem addField_keeps {field : String} {added : Node} (h : n.addField field = .ok added) :
    n.Keeps added := by
  unfold addField at h
  split at h
  · cases h
  · next opened hopen =>
    split at h
    · cases h
      exact (n.openSlot_keeps hopen).trans (opened.replace_keeps _ _)
    · cases h

theorem foldlM_addField_keeps {n : Node} {fields : List String} {added : Node}
    (h : fields.foldlM addField n = .ok added) : n.Keeps added := by
  induction fields generalizing n with
  | nil =>
    cases h
    exact .refl _
  | cons field rest ih =>
    rw [List.foldlM_cons] at h
    cases hadd : n.addField field with
    | error fault =>
      rw [hadd] at h
      cases h
    | ok first =>
      rw [hadd] at h
      exact (n.addField_keeps hadd).trans (ih h)

theorem writeHighlight_keeps (key : String) (field : Option String) (value : Json) :
    n.Keeps (n.writeHighlight key field value).state := by
  unfold writeHighlight
  split
  · exact n.writeOption_keeps _ _ _
  · split
    · exact .refl n
    · next opened hadd =>
      have hopened := n.addField_keeps hadd
      dsimp only
      split
      · exact hopened.trans (opened.replace_keeps .root _)
      · exact hopened

end Node

/-! ## Methods -/

/-- Accessors keep the kind and the names of a node. -/
theorem Accessor.run_keeps (a : Accessor) (n : Node) (v : Argument) :
    n.Keeps (a.run n v).state := by
  unfold run
  split
  · cases a <;> first | exact n.readHeld_keeps _ _ | exact n.readOption_keeps _ _
  · cases a <;> simp only [write] <;> (repeat' split) <;>
      first
      | exact n.writeOption_keeps _ _ _
      | exact n.appendItem_keeps _ _ _
      | exact n.appendHeld_keeps _ _ _
      | exact n.mergeSection_keeps _ _ _
      | exact .refl n

theorem FieldMethod.run_keeps (m : FieldMethod) (n : Node) (args : Arguments) :
    n.Keeps (m.run n args).state := by
  cases m <;> simp only [run] <;> (repeat' split) <;>
    first
    | exact n.renameInner_keeps _
    | exact Accessor.run_keeps _ n _
    | exact n.readHeld_keeps _ _
    | exact n.readOption_keeps _ _
    | exact n.writeOption_keeps _ _ _
    | exact n.appendHeld_keeps _ _ _
    | exact ⟨rfl, rfl⟩

theorem GeoMethod.run_keeps (m : GeoMethod) (n : Node) (args : Arguments) :
    n.Keeps (m.run n args).state := by
  cases m <;> simp only [run] <;> (repeat' split) <;>
    first
    | exact n.readPart_keeps _
    | exact n.readOption_keeps _ _
    | exact n.writeOption_keeps _ _ _
    | exact ⟨rfl, rfl⟩

theorem BucketMethod.run_keeps (m : BucketMethod) (n : Node) (args : Arguments) :
    n.Keeps (m.run n args).state := by
  cases m with
  | regex =>
    have hwrite (v : Json) := n.writeOption_keeps .inner "regex" v
    simp only [run]
    split
    · exact n.readOption_keeps _ _
    · unfold Outcome.andThen
      split
      · exact hwrite _
      · dsimp only
        split
        · exact hwrite _
        · exact (hwrite _).trans (Node.writeOption_keeps _ _ _ _)
  | _ =>
    simp only [run]
    (repeat' split) <;>
      first
      | exact n.readOption_keeps _ _
      | exact n.writeOption_keeps _ _ _
      | exact n.appendItem_keeps _ _ _
      | exact .refl n

theorem HighlightMethod.run_keeps (m : HighlightMethod) (n : Node) (args : Arguments) :
    n.Keeps (m.run n args).state := by
  cases m with
  | fields =>
    simp only [run]
    split
    · exact n.readOption_keeps _ _
    · split
      · exact .refl n
      · next opened hopen =>
        have hopened := n.openSlot_keeps hopen
        split
        · exact hopened
        · split
          · next added hadd => exact hopened.trans (Node.foldlM_addField_keeps hadd)
          · exact hopened
  | _ =>
    simp only [run]
    (repeat' split) <;>
      first
      | exact n.readThrough_keeps _
      | exact n.writeHighlight_keeps _ _ _
      | exact .refl n

theorem SuggestionMethod.run_keeps (m : SuggestionMethod) (n : Node) (args : Arguments) :
    n.Keeps (m.run n args).state := by
  cases m <;> simp only [run] <;> (repeat' split) <;>
    first
    | exact n.writeOption_keeps _ _ _
    | exact n.readOption_keeps _ _
    | exact n.readThrough_keeps _
    | exact n.mergeSection_keeps _ _ _
    | exact n.replace_keeps .inner _
    | exact .refl n

theorem BodyMethod.run_keeps (m : BodyMethod) (n : Node) (args : Arguments) :
    n.Keeps (m.run n args).state := by
  cases m <;> simp only [run, sortBy] <;> (repeat' split) <;>
    first
    | exact n.readOption_keeps _ _
    | exact n.readThrough_keeps _
    | exact n.writeOption_keeps _ _ _
    | exact n.appendItem_keeps _ _ _
    | exact n.mergeSection_keeps _ _ _
    | exact Accessor.run_keeps _ n _
    | exact .refl n

theorem Inspection.run_keeps (i : Inspection) (n : Node) : n.Keeps (i.run n).state := by
  cases i with
  | fragment => exact n.readPart_keeps _
  | tag | text | shown => exact .refl n

theorem SortMethod.run_kind (m : SortMethod) (n : Node) (args : Arguments) :
    (m.run n args).state.kind = n.kind := by
  cases m with
  | field =>
    simp only [run, Node.renameClause]
    split
    · rfl
    · split
      · exact (n.renameInner_keeps _).kind
      · split
        · rfl
        · split <;> rfl
  | direction word => exact (n.writeOption_keeps _ _ _).kind
  | geoDistance =>
    simp only [run]
    split
    · exact (n.readThrough_keeps _).kind
    · split <;> rfl
  | script =>
    simp only [run]
    split
    · exact (n.readThrough_keeps _).kind
    · split
      · exact (n.writeOption_keeps _ _ _).kind
      · rfl

theorem DecayMethod.run_kind (m : DecayMethod) (n : Node) : (m.run n).state.kind = n.kind := by
  cases m with
  | choose curve =>
    simp only [run]
    split <;> rfl
  | current => rfl

/-! ## Calls -/

namespace Operation

/-- Whether an operation may put a node under another slot. -/
def movesSlot : Operation → Bool
  | sort _ | decay _ => true
  | _ => false

/-- An operation that does not move the slot keeps the kind and the names. -/
theorem run_keeps {op : Operation} (h : op.movesSlot = false) (n : Node) (args : Arguments) :
    n.Keeps (op.run n args).state := by
  cases op with
  | accessor a => exact a.run_keeps n _
  | field m => exact m.run_keeps n args
  | geo m => exact m.run_keeps n args
  | decay m => cases h
  | bucket m => exact m.run_keeps n args
  | highlight m => exact m.run_keeps n args
  | sort m => cases h
  | suggestion m => exact m.run_keeps n args
  | body m => exact m.run_keeps n args
  | inspect i => exact i.run_keeps n

/-- No operation changes the kind of a node. -/
theorem run_kind (op : Operation) (n : Node) (args : Arguments) :
    (op.run n args).state.kind = n.kind := by
  cases hmoves : op.movesSlot with
  | false => exact (run_keeps hmoves n args).kind
  | true =>
    cases op with
    | sort m => exact m.run_kind n args
    | decay m => exact m.run_kind n
    | _ => cases hmoves

end Operation

namespace Kind

/-- The kinds whose slot is the name that they are given when they are built. -/
def isNamed : Kind → Bool
  | aggregation _ | facet _ | suggester _ | scriptField => true
  | _ => false

/-- No method of a kind with names moves the slot. -/
theorem movesSlot_methods {k : Kind} (h : k.isNamed = true) :
    ∀ entry ∈ k.methods, entry.2.movesSlot = false := by
  cases k with
  | aggregation k => cases k <;> decide
  | facet k => cases k <;> decide
  | suggester k => cases k <;> decide
  | scriptField => decide
  | _ => cases h

end Kind

namespace Node

/-- No call changes the kind of a node. -/
theorem call_kind (n : Node) (method : String) (args : Arguments) :
    (n.call method args).state.kind = n.kind := by
  unfold call
  split
  · exact Operation.run_kind _ n args
  · rfl

/-- The name of a node that is given one when it is built stays. -/
theorem call_slot {n : Node} (h : n.kind.isNamed = true) (method : String) (args : Arguments) :
    (n.call method args).state.slot = n.slot := by
  unfold call
  split
  · next op hop =>
    have hmoves := Kind.movesSlot_methods h _ (Entries.mem_of_get? hop)
    exact (Operation.run_keeps hmoves n args).slot
  · rfl

end Node

/-! ## Construction -/

/-- What two calls keep, one after the other keeps. -/
theorem Outcome.andThen_keeps {σ : Type} {P : σ → Prop} {o : Outcome σ} {next : σ → Outcome σ}
    (h : P o.state) (hnext : ∀ s, P s → P (next s).state) : P (o.andThen next).state := by
  unfold Outcome.andThen
  split
  · exact h
  · exact hnext o.state h

theorem andThen_kind {o : Outcome Node} {next : Node → Outcome Node} {k : Kind}
    (h : o.state.kind = k) (hnext : ∀ n, n.kind = k → (next n).state.kind = k) :
    (o.andThen next).state.kind = k :=
  Outcome.andThen_keeps (P := fun n : Node => n.kind = k) h hnext

namespace Kind

/-- A kind builds nodes of that kind. -/
theorem build_kind (k : Kind) (args : Arguments) : (k.build args).state.kind = k := by
  have hrun (op : Operation) (n : Node) (args : Arguments) {k : Kind} (h : n.kind = k) :
      (op.run n args).state.kind = k := (op.run_kind n args).trans h
  cases k with
  | query k =>
    cases k <;> simp only [build, QueryKind.build] <;> (repeat' split) <;>
      first
      | rfl
      | exact hrun _ _ _ rfl
      | exact andThen_kind (hrun _ _ _ rfl) fun n hn => hrun _ n _ hn
  | filter k =>
    cases k <;> simp only [build, FilterKind.build] <;> (repeat' split) <;>
      first
      | rfl
      | exact hrun _ _ _ rfl
  | score k =>
    cases k <;> simp only [build, ScoreKind.build] <;> (repeat' split) <;>
      first
      | rfl
      | exact hrun _ _ _ rfl
  | aggregation k => cases k <;> rfl
  | facet k => cases k <;> rfl
  | suggester k => cases k <;> rfl
  | shape =>
    exact andThen_kind (hrun _ _ _ rfl) fun n hn => (n.writeOption_keeps _ _ _).kind.trans hn
  | highlight => exact (HighlightMethod.run_keeps _ _ _).kind
  | rescore => exact andThen_kind (hrun _ _ _ rfl) fun n hn => hrun _ n _ hn
  | _ => rfl

end Kind

/-! ## Objects -/

/-- The target of a request is no part of its body. -/
theorem TargetMethod.run_body (m : TargetMethod) (r : Request) (args : Arguments) :
    (m.run r args).state.body = r.body := by
  have hcoerce (r : Request) : r.coerceIndices.body = r.body := by
    unfold Request.coerceIndices
    split <;> rfl
  cases m with
  | indices | types =>
    simp only [run]
    split
    · rfl
    · split
      · exact hcoerce _
      · rfl
  | routing =>
    simp only [run]
    split
    · rfl
    · split <;> rfl
  | searchType | preference | path => rfl

namespace Request

theorem call_body_kind (r : Request) (method : String) (args : Arguments) :
    (r.call method args).state.body.kind = r.body.kind := by
  unfold call
  split
  · exact congrArg Node.kind (TargetMethod.run_body _ r args)
  · exact r.body.call_kind method args

/-- A new request has an empty body. -/
theorem build_body (args : Arguments) : (build args).state.body = empty.body := by
  have hrun (m : TargetMethod) (args : Arguments) (r : Request) (hr : r.body = empty.body) :
      (m.run r args).state.body = empty.body := (m.run_body r args).trans hr
  refine Outcome.andThen_keeps (P := fun r : Request => r.body = empty.body) (hrun _ _ _ rfl) ?_
  intro r hr
  exact Outcome.andThen_keeps (P := fun r : Request => r.body = empty.body) (hrun _ _ r hr)
    fun r' => hrun _ _ r'

end Request

/-- The kind of an object. -/
def Object.kind (o : Object) : Kind := o.toNode.kind

theorem Object.build_kind (k : Kind) (args : Arguments) : (Object.build k args).state.kind = k := by
  by_cases hrequest : k = .request
  · subst hrequest
    exact congrArg Node.kind (Request.build_body args)
  · cases k <;> first | exact absurd rfl hrequest | exact Kind.build_kind _ args

/-- No call changes the kind of an object. -/
theorem Object.call_kind (o : Object) (method : String) (args : Arguments) :
    (o.call method args).state.kind = o.kind := by
  cases o with
  | node n => exact n.call_kind method args
  | request r => exact r.call_body_kind method args

end SearchBuilder
