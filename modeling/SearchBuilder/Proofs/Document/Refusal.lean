import SearchBuilder.Proofs.Document.Frame

/-!
# Refused arguments

A call that blames an argument has checked all of it before the first write, so the node is as it
was (`Operation.run_atomic`). The steps that write never blame an argument themselves. The one
exception is the list of highlighted fields, which is begun before the fields are looked at
(`HighlightMethod.fields_refused`).
-/

namespace SearchBuilder

/-! ## Outcomes -/

namespace Outcome

variable {σ τ : Type}

/-- The outcome does not blame an argument. -/
def Blameless (o : Outcome σ) : Prop := ∀ cause, o.answer ≠ .error (.misuse cause)

/-- If the outcome blames an argument, the state is what it was before. -/
def Atomic (before : σ) (o : Outcome σ) : Prop :=
  ∀ cause, o.answer = .error (.misuse cause) → o.state = before

/-- What never blames an argument is atomic. -/
theorem Blameless.atomic {o : Outcome σ} (h : o.Blameless) (before : σ) : o.Atomic before :=
  fun cause hcause => absurd hcause (h cause)

theorem atomic_of_state {o : Outcome σ} {before : σ} (h : o.state = before) : o.Atomic before :=
  fun _ _ => h

/-- What succeeds blames nothing. -/
theorem blameless_of_ok {o : Outcome σ} {a : Answer} (h : o.answer = .ok a) : o.Blameless := by
  intro cause hcause
  rw [h] at hcause
  cases hcause

theorem refused_atomic (state : σ) (cause : Misuse) : (refused state cause).Atomic state :=
  atomic_of_state rfl

theorem value_atomic (state : σ) (j : Json) : (value state j).Atomic state := atomic_of_state rfl

theorem noticed_atomic (state : σ) (notice : Notice) : (noticed state notice).Atomic state :=
  atomic_of_state rfl

theorem failed_atomic (state : σ) (fault : Fault) : (failed state fault).Atomic state :=
  atomic_of_state rfl

theorem chained_blameless (state : σ) : (chained state).Blameless := blameless_of_ok rfl

theorem shifted_blameless (state : σ) (shifts : List Shift) : (shifted state shifts).Blameless :=
  blameless_of_ok rfl

/-- Two calls in a row blame nothing if neither does. -/
theorem Blameless.andThen {o : Outcome σ} {next : σ → Outcome σ} (h : o.Blameless)
    (hnext : ∀ s, (next s).Blameless) : (o.andThen next).Blameless := by
  intro cause
  unfold Outcome.andThen
  split
  · exact h cause
  · exact hnext o.state cause

theorem Atomic.map {o : Outcome σ} {before : σ} (h : o.Atomic before) (f : σ → τ) :
    (o.map f).Atomic (f before) :=
  fun cause hcause => congrArg f (h cause hcause)

end Outcome

open Outcome

/-! ## Steps on nodes -/

namespace Node

variable (n : Node)

theorem readThrough_atomic (path : Path) : (n.readThrough path).Atomic n :=
  atomic_of_state (n.readThrough_state path)

theorem readOption_atomic (place : Place) (key : String) : (n.readOption place key).Atomic n :=
  atomic_of_state (n.readOption_state place key)

/-- Setting an option blames nothing, as its value was checked before. -/
theorem writeOption_blameless (place : Place) (key : String) (value : Json) :
    (n.writeOption place key value).Blameless := by
  unfold writeOption
  split <;> intro cause hcause <;> cases hcause

theorem writeOption_atomic (place : Place) (key : String) (value : Json) :
    (n.writeOption place key value).Atomic n :=
  (n.writeOption_blameless place key value).atomic n

theorem openSlot_ne_misuse {place : Place} {key : String} {start : Json} {fault : Fault}
    (h : n.openSlot place key start = .error fault) (cause : Misuse) : fault ≠ .misuse cause := by
  unfold openSlot at h
  split at h
  · cases h
  · cases h
    exact Fault.noConfusion

theorem appendItem_blameless (place : Place) (key : String) (item : Node → Json) :
    (n.appendItem place key item).Blameless := by
  intro cause hcause
  unfold appendItem at hcause
  split at hcause
  case h_1 fault hopen =>
    exact n.openSlot_ne_misuse hopen cause (Except.error.inj hcause)
  case h_2 =>
    dsimp only at hcause
    split at hcause <;> cases hcause

theorem appendHeld_blameless (place : Place) (key : String) (item : Json) :
    (n.appendHeld place key item).Blameless := by
  unfold appendHeld
  split
  · split <;> intro cause hcause <;> cases hcause
  · intro cause hcause
    cases hcause

theorem mergeSection_blameless (place : Place) (key : String) (addition : Node → Json) :
    (n.mergeSection place key addition).Blameless := by
  intro cause hcause
  unfold mergeSection at hcause
  split at hcause
  case h_1 fault hopen =>
    exact n.openSlot_ne_misuse hopen cause (Except.error.inj hcause)
  case h_2 =>
    dsimp only at hcause
    split at hcause <;> cases hcause

theorem renameInner_blameless (name : String) : (n.renameInner name).Blameless := by
  unfold renameInner
  split <;> intro cause hcause <;> cases hcause

theorem renameClause_blameless (field : String) : (n.renameClause field).Blameless := by
  unfold renameClause
  split
  · exact n.renameInner_blameless field
  · split
    · exact chained_blameless _
    · split <;> intro cause hcause <;> cases hcause

theorem addField_ne_misuse {field : String} {fault : Fault}
    (h : n.addField field = .error fault) (cause : Misuse) : fault ≠ .misuse cause := by
  unfold addField at h
  split at h
  case h_1 hopen =>
    cases h
    exact n.openSlot_ne_misuse hopen cause
  case h_2 =>
    split at h
    · cases h
    · cases h
      exact Fault.noConfusion

theorem foldlM_addField_ne_misuse {n : Node} {fields : List String} {fault : Fault}
    (h : fields.foldlM addField n = .error fault) (cause : Misuse) : fault ≠ .misuse cause := by
  induction fields generalizing n with
  | nil => cases h
  | cons field rest ih =>
    rw [List.foldlM_cons] at h
    cases hadd : n.addField field with
    | error e =>
      rw [hadd] at h
      cases h
      exact n.addField_ne_misuse hadd cause
    | ok added =>
      rw [hadd] at h
      exact ih h

theorem writeHighlight_blameless (key : String) (field : Option String) (value : Json) :
    (n.writeHighlight key field value).Blameless := by
  intro cause hcause
  unfold writeHighlight at hcause
  split at hcause
  · exact n.writeOption_blameless _ _ _ cause hcause
  · split at hcause
    case h_1 fault hadd => exact n.addField_ne_misuse hadd cause (Except.error.inj hcause)
    case h_2 =>
      dsimp only at hcause
      split at hcause <;> cases hcause

end Node

/-! ## Methods -/

namespace Accessor

theorem read_atomic (a : Accessor) (n : Node) : (a.read n).Atomic n := by
  apply atomic_of_state
  cases a <;> first | exact n.readHeld_state _ _ | exact n.readOption_state _ _

/-- An accessor checks its argument before it writes. -/
theorem write_atomic (a : Accessor) (n : Node) (v : Argument) : (a.write n v).Atomic n := by
  cases a with
  | option place key => exact n.writeOption_atomic _ _ _
  | choice place key words folding =>
    simp only [write]
    split
    · exact refused_atomic n _
    · split
      · exact n.writeOption_atomic _ _ _
      · exact noticed_atomic n _
  | child place key expected =>
    simp only [write]
    split
    · exact n.writeOption_atomic _ _ _
    · exact refused_atomic n _
  | children place key expected =>
    simp only [write]
    split
    · split
      · exact n.writeOption_atomic _ _ _
      · exact refused_atomic n _
    · split
      · exact (n.appendItem_blameless _ _ _).atomic n
      · exact refused_atomic n _
  | «section» place key expected =>
    simp only [write]
    split
    · exact (n.mergeSection_blameless _ _ _).atomic n
    · exact refused_atomic n _
  | names place key what =>
    simp only [write]
    split
    · exact n.writeOption_atomic _ _ _
    · exact refused_atomic n _
  | growingNames place key what =>
    simp only [write]
    split
    · exact (n.appendItem_blameless _ _ _).atomic n
    · split
      · exact n.writeOption_atomic _ _ _
      · exact refused_atomic n _
  | heldNames place key what =>
    simp only [write]
    split
    · exact (n.appendHeld_blameless _ _ _).atomic n
    · split
      · exact n.writeOption_atomic _ _ _
      · exact refused_atomic n _
  | number place key =>
    simp only [write]
    split
    · exact n.writeOption_atomic _ _ _
    · exact n.writeOption_atomic _ _ _
    · exact refused_atomic n _
  | integer place key =>
    simp only [write]
    split
    · exact n.writeOption_atomic _ _ _
    · exact refused_atomic n _

/-- An accessor checks its argument before it stores anything. -/
theorem run_atomic (a : Accessor) (n : Node) (v : Argument) : (a.run n v).Atomic n := by
  unfold run
  split
  · exact a.read_atomic n
  · exact a.write_atomic n v

end Accessor

/-- A method about a field leaves a node alone if it refuses. -/
theorem FieldMethod.run_atomic (m : FieldMethod) (n : Node) (args : Arguments) :
    (m.run n args).Atomic n := by
  cases m with
  | rename =>
    simp only [run]
    split
    · exact value_atomic n _
    · exact (n.renameInner_blameless _).atomic n
  | renameIfSet =>
    simp only [run]
    split
    · exact value_atomic n _
    · split
      · split
        · exact (n.renameInner_blameless _).atomic n
        · exact (chained_blameless _).atomic n
      · exact failed_atomic n _
  | value => exact Accessor.run_atomic _ n _
  | terms =>
    simp only [run]
    split
    · exact atomic_of_state (n.readHeld_state _ _)
    · split
      · exact n.writeOption_atomic _ _ _
      · exact (n.appendHeld_blameless _ _ _).atomic n
  | fieldList =>
    simp only [run]
    split
    · exact n.readOption_atomic _ _
    · split
      · exact n.writeOption_atomic _ _ _
      · exact refused_atomic n _

/-- A method about places leaves a node alone if it refuses. -/
theorem GeoMethod.run_atomic (m : GeoMethod) (n : Node) (args : Arguments) :
    (m.run n args).Atomic n := by
  have hset (point : Json) : (n.setPoint point).Atomic n := (shifted_blameless _ _).atomic n
  cases m with
  | pointProperties =>
    simp only [run]
    split
    · exact atomic_of_state (n.readPart_state _)
    · split
      · exact hset _
      · exact noticed_atomic n _
  | pointText | pointHash =>
    simp only [run]
    split
    · exact atomic_of_state (n.readPart_state _)
    · split
      · split
        · exact hset _
        · exact (chained_blameless n).atomic n
      · exact (chained_blameless n).atomic n
  | pointPair =>
    simp only [run]
    split
    · exact atomic_of_state (n.readPart_state _)
    · split
      · exact hset _
      · exact (chained_blameless n).atomic n
  | distancePoint | corner key =>
    simp only [run]
    split
    · exact n.readOption_atomic _ _
    · split
      · exact n.writeOption_atomic _ _ _
      · exact refused_atomic n _
  | origin =>
    simp only [run]
    split
    · exact n.readOption_atomic _ _
    · split
      · exact refused_atomic n _
      · exact n.writeOption_atomic _ _ _

theorem DecayMethod.run_atomic (m : DecayMethod) (n : Node) : (m.run n).Atomic n := by
  cases m with
  | choose curve =>
    simp only [run]
    split
    · exact (shifted_blameless _ _).atomic n
    · exact failed_atomic n _
  | current => exact value_atomic n _

theorem BucketMethod.direction_ne_misuse {v : Argument} {fault : Fault}
    (h : direction v = .error fault) (cause : Misuse) : fault ≠ .misuse cause := by
  unfold direction at h
  split at h
  · cases h
  · split at h
    · cases h
      exact Fault.noConfusion
    · dsimp only at h
      split at h <;> cases h

/-- A method of buckets leaves a node alone if it refuses. -/
theorem BucketMethod.run_atomic (m : BucketMethod) (n : Node) (args : Arguments) :
    (m.run n args).Atomic n := by
  cases m with
  | pattern key | bounds =>
    simp only [run]
    split
    · exact n.readOption_atomic _ _
    · exact n.writeOption_atomic _ _ _
  | regex =>
    simp only [run]
    split
    · exact n.readOption_atomic _ _
    · refine ((n.writeOption_blameless _ _ _).andThen fun m => ?_).atomic n
      split
      · exact chained_blameless m
      · exact m.writeOption_blameless _ _ _
  | order =>
    simp only [run]
    split
    · exact n.readOption_atomic _ _
    · split
      case h_1 fault hfault =>
        exact fun cause hcause =>
          absurd (Except.error.inj hcause) (direction_ne_misuse hfault cause)
      case h_2 =>
        exact fun cause hcause => absurd hcause (n.writeOption_blameless _ _ _ cause)
  | range =>
    simp only [run]
    split
    · exact n.readOption_atomic _ _
    · exact (n.appendItem_blameless _ _ _).atomic n
  | noSubAggregations =>
    simp only [run]
    split
    · exact value_atomic n _
    · exact refused_atomic n _

theorem SortMethod.run_atomic (m : SortMethod) (n : Node) (args : Arguments) :
    (m.run n args).Atomic n := by
  cases m with
  | field =>
    simp only [run]
    split
    · exact value_atomic n _
    · exact (n.renameClause_blameless _).atomic n
  | direction word => exact n.writeOption_atomic _ _ _
  | geoDistance =>
    simp only [run]
    split
    · exact n.readThrough_atomic _
    · split
      · exact (shifted_blameless _ _).atomic n
      · exact refused_atomic n _
  | script =>
    simp only [run]
    split
    · exact n.readThrough_atomic _
    · split
      · exact n.writeOption_atomic _ _ _
      · exact (shifted_blameless _ _).atomic n

theorem SuggestionMethod.run_atomic (m : SuggestionMethod) (n : Node) (args : Arguments) :
    (m.run n args).Atomic n := by
  cases m with
  | linearSmoothing | laplaceSmoothing | backoffSmoothing =>
    exact n.writeOption_atomic _ _ _
  | changeTags =>
    simp only [run]
    split
    · exact n.readOption_atomic _ _
    · exact n.writeOption_atomic _ _ _
  | fuzzy =>
    simp only [run]
    split
    · exact n.readOption_atomic _ _
    · split
      · exact failed_atomic n _
      · split
        · exact (chained_blameless _).atomic n
        · exact (shifted_blameless _ _).atomic n
  | fuzzyOption key =>
    simp only [run]
    split
    · exact failed_atomic n _
    · split
      · exact n.readThrough_atomic _
      · exact (n.mergeSection_blameless _ _ _).atomic n

theorem BodyMethod.sortBy_atomic (n : Node) (v order : Argument) :
    (sortBy n v order).Atomic n := by
  unfold sortBy
  split
  · dsimp only
    split
    · exact (n.appendItem_blameless _ _ _).atomic n
    · exact noticed_atomic n _
  · exact refused_atomic n _

/-- A method of a body leaves a node alone if it refuses. -/
theorem BodyMethod.run_atomic (m : BodyMethod) (n : Node) (args : Arguments) :
    (m.run n args).Atomic n := by
  cases m with
  | sort =>
    simp only [run]
    split
    · exact n.readOption_atomic _ _
    · split
      · exact sortBy_atomic n _ _
      · split
        · split
          · exact n.writeOption_atomic _ _ _
          · exact refused_atomic n _
        · split
          · exact (n.appendItem_blameless _ _ _).atomic n
          · exact refused_atomic n _
  | source =>
    simp only [run]
    split
    · exact n.readOption_atomic _ _
    · split
      · exact n.writeOption_atomic _ _ _
      · exact refused_atomic n _
      · split
        · exact n.writeOption_atomic _ _ _
        · exact refused_atomic n _
  | suggest =>
    simp only [run]
    split
    · exact (n.mergeSection_blameless _ _ _).atomic n
    · exact Accessor.run_atomic _ n _
  | indexBoost =>
    simp only [run]
    split
    · exact n.readOption_atomic _ _
    · split
      · exact n.readThrough_atomic _
      · exact (n.mergeSection_blameless _ _ _).atomic n

namespace HighlightMethod

/-- All methods of a highlight but the one that adds fields check their argument first. -/
theorem run_atomic {m : HighlightMethod} (hm : m ≠ .fields) (n : Node) (args : Arguments) :
    (m.run n args).Atomic n := by
  have hstore (key : String) (value : Json) :
      (n.writeHighlight key (fieldOf args) value).Atomic n :=
    (n.writeHighlight_blameless _ _ _).atomic n
  cases m with
  | fields => exact absurd rfl hm
  | option key =>
    simp only [run]
    split
    · exact n.readThrough_atomic _
    · exact hstore _ _
  | choice key words =>
    simp only [run]
    split
    · exact n.readThrough_atomic _
    · split
      · exact refused_atomic n _
      · split
        · exact hstore _ _
        · exact noticed_atomic n _
  | tags key | settings key =>
    simp only [run]
    split
    · exact n.readThrough_atomic _
    · split
      · exact hstore _ _
      · exact refused_atomic n _

/-- The fields are begun before the argument is looked at, so they are there if it is refused. -/
theorem fields_refused {n opened : Node} {args : Arguments}
    (hopen : n.openSlot .root "fields" .empty = .ok opened)
    (hgiven : (args.first ["field"]).isNull = false)
    (hnames : (args.first ["field"]).names? = none) :
    fields.run n args = .refused opened (.notNames "fields") := by
  simp only [run, hgiven, Bool.false_eq_true, if_false, hopen, hnames]

/-- If fields are refused, then because they are neither a text nor a list of texts. -/
theorem exists_of_fields_misuse {n : Node} {args : Arguments} {cause : Misuse}
    (h : (fields.run n args).answer = .error (.misuse cause)) :
    (args.first ["field"]).isNull = false ∧ (args.first ["field"]).names? = none ∧
      ∃ opened, n.openSlot .root "fields" .empty = .ok opened := by
  simp only [run] at h
  split at h
  · next hnull =>
    exact absurd h fun hread => by
      unfold Node.readOption Node.readPart at hread
      split at hread
      · split at hread <;> cases hread
      · cases hread
  · next hgiven =>
    refine ⟨by simpa using hgiven, ?_⟩
    split at h
    case h_1 fault hopen =>
      exact absurd (Except.error.inj h) (n.openSlot_ne_misuse hopen cause)
    case h_2 opened hopen =>
      split at h
      · next hnames => exact ⟨hnames, opened, hopen⟩
      · split at h
        · cases h
        · next hadd =>
          exact absurd (Except.error.inj h) (Node.foldlM_addField_ne_misuse hadd cause)

end HighlightMethod

theorem Inspection.run_atomic (i : Inspection) (n : Node) : (i.run n).Atomic n := by
  cases i with
  | fragment => exact atomic_of_state (n.readPart_state _)
  | tag | text | shown => exact atomic_of_state rfl

/-- Every operation but one leaves the node as it was if it blames an argument. -/
theorem Operation.run_atomic {op : Operation} (hop : op ≠ .highlight .fields) (n : Node)
    (args : Arguments) : (op.run n args).Atomic n := by
  cases op with
  | accessor a => exact a.run_atomic n _
  | field m => exact m.run_atomic n args
  | geo m => exact m.run_atomic n args
  | decay m => exact m.run_atomic n
  | bucket m => exact m.run_atomic n args
  | highlight m => exact HighlightMethod.run_atomic (fun h => hop (h ▸ rfl)) n args
  | sort m => exact m.run_atomic n args
  | suggestion m => exact m.run_atomic n args
  | body m => exact m.run_atomic n args
  | inspect i => exact i.run_atomic n

end SearchBuilder
