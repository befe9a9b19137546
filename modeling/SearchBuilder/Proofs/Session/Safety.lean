import SearchBuilder.Proofs.Session.Shape

/-!
# Programs that cannot fail by accident

A careful program builds concrete kinds only, names things by texts, gives no field the name of an
option that stands beside it, calls methods that are there, and gives bucket orders a direction that
is a text or counts as missing. Then no key is read or written where there is no object, no key is
missing, and nothing is appended to what is no list: all that can fail, but for arguments that are
blamed, is the writing of a text (`Session.careful_blames`). A text is written as long as the
program stores only values that can be written, which on a platform without a limit of digits are
all values of JSON.
-/

namespace SearchBuilder

/-! ## Names -/

/-- A name that is given as a text, or not given. -/
def Argument.IsName (v : Argument) : Prop := v.isNull = true ∨ v.text?.isSome = true

instance (v : Argument) : Decidable v.IsName := inferInstanceAs (Decidable (_ ∨ _))

/-- The names that a construction is given. -/
def Kind.givenNames (k : Kind) (args : Arguments) : List Argument :=
  match k with
  | query .term | query .spanTerm | filter .term => [args.first ["term"]]
  | query .wordStart | filter .wordStart => [args.first ["prefix"]]
  | query .wildcard => [args.first ["pattern"]]
  | query .terms | filter .terms => [args.first ["terms"]]
  | query .text => [args.first ["query"]]
  | query .range | filter .range | filter .geoBox | filter .geoDistance => [args.first]
  | score .decay | facet _ | sort | scriptField => [args.first]
  | aggregation _ => [args.first ["agg_type"]]
  | suggester _ => [args.first ["suggest_type"]]
  | _ => []

/-- The names that an operation is given. -/
def Operation.calledNames (args : Arguments) : Operation → List Argument
  | field .rename | field .renameIfSet | sort .field => [args.first]
  | bucket .order => [args.first ["direction"]]
  | highlight _ => [args.get 1 "field"]
  | body .indexBoost => [args.first ["boost"]]
  | _ => []

/-- The names that a call by a method's name is given. -/
def Kind.calledNames (k : Kind) (method : String) (args : Arguments) : List Argument :=
  match Entries.get? k.methods method with
  | some op => op.calledNames args
  | none => []

/-! ## Careful programs -/

namespace Kind

/-- Whether objects of a kind have a method. -/
def hasMethod (k : Kind) (method : String) : Bool :=
  Entries.contains k.methods method ||
    (k = .request && Entries.contains Request.targetMethods method)

/-- Whether a kind is one of aggregations. -/
def isAggregation : Kind → Bool
  | aggregation _ => true
  | _ => false

/-- Fields are renamed by one method, and orders of buckets are set by one of aggregations. -/
theorem guarded_methods (k : Kind) : ∀ entry ∈ k.methods,
    (entry.2 = .field .rename → entry.1 = "field" ∧ k.bodyKeys = k.reservedFields) ∧
      (entry.2 = .bucket .order → entry.1 = "order" ∧ k.isAggregation = true) := by
  cases k with
  | query k => cases k <;> decide
  | filter k => cases k <;> decide
  | score k => cases k <;> decide
  | aggregation k => cases k <;> decide
  | facet k => cases k <;> decide
  | suggester k => cases k <;> decide
  | _ => decide

end Kind

/-- What careful programs may do. -/
def Discipline.careful : Discipline where
  uses _ := False
  builds k args :=
    k.isConcrete = true ∧ k.givenField args ∉ k.reservedFields ∧
      ∀ name ∈ k.givenNames args, name.IsName
  calls k method args :=
    k.hasMethod method = true ∧
      (method = "field" → args.first.name ∉ k.reservedFields) ∧
      (k.isAggregation = true → method = "order" → (args.get 1 "direction").IsWord) ∧
      ∀ name ∈ k.calledNames method args, name.IsName

/-- A method that an object has allows what careful programs give it. -/
theorem Node.allows_of_careful {n : Node} {method : String} {args : Arguments}
    (h : Discipline.careful.calls n.kind method args) {op : Operation}
    (hop : Entries.get? n.kind.methods method = some op) : n.Allows method args := by
  refine ⟨op, hop, ?_⟩
  obtain ⟨hrename, horder⟩ := n.kind.guarded_methods _ (Entries.mem_of_get? hop)
  unfold Operation.Allows
  split
  · obtain ⟨hmethod, hkeys⟩ := hrename rfl
    rw [hkeys]
    exact h.2.1 hmethod
  · obtain ⟨hmethod, haggregation⟩ := horder rfl
    exact h.2.2.1 haggregation hmethod
  · trivial

theorem Object.allows_of_careful {o : Object} (ho : o.Shaped True) {method : String}
    {args : Arguments} (h : Discipline.careful.calls o.kind method args) :
    o.Allows method args := by
  have hmethod := h.1
  simp only [Kind.hasMethod, Bool.or_eq_true, Bool.and_eq_true, decide_eq_true_eq] at hmethod
  cases o with
  | node n =>
    rcases hmethod with hown | ⟨hkind, -⟩
    · obtain ⟨op, hop⟩ := Entries.contains_iff.1 hown
      exact Node.allows_of_careful h hop
    · exact absurd hkind ho.1
  | request r =>
    rcases hmethod with hown | ⟨-, htarget⟩
    · obtain ⟨op, hop⟩ := Entries.contains_iff.1 hown
      exact .inr (Node.allows_of_careful h hop)
    · exact .inl (Entries.contains_iff.1 htarget)

/-- Careful programs keep all objects of good shape and fail only by blaming arguments. -/
theorem Discipline.careful_keeps : Discipline.careful.Keeps (Object.Shaped True) Child.Genuine
    fun fault => True → ∃ cause, fault = .misuse cause :=
  Discipline.keeps_shaped (fun _ => id) (fun _ _ h => ⟨h.1, fun _ => h.2.1⟩)
    fun _ _ _ ho h _ => Object.allows_of_careful ho h

/-! ## Programs whose texts can be written -/

section Writing

variable {limit : DigitLimit}

/-- What programs may do that store only values that can be written. -/
def Discipline.writing (limit : DigitLimit) : Discipline where
  uses child := child.fragment.Writable limit (some .notJson)
  builds k args := AllWritable limit (some .notJson) (k.values args)
  calls k method args := AllWritable limit (some .notJson) (k.valuesOf method args)

/-- Programs that store only what can be written keep all objects writable. -/
theorem Discipline.writing_keeps : (Discipline.writing limit).Keeps (Object.Writable limit)
    (·.fragment.Writable limit (some .notJson)) fun _ => True where
  uses := fun _ => id
  view := by
    intro o ho
    cases o with
    | node n => exact ho.fragment
    | request r => exact ho.fragment
  build := fun _ _ hvalues hshow =>
    ⟨fun _ _ => Object.build_writable hshow hvalues, fun _ _ => trivial⟩
  call := fun _ _ _ ho hvalues hshow =>
    ⟨Object.call_writable ho hshow hvalues, fun _ _ => trivial⟩

end Writing

namespace Session

/-- A query for terms whose field is renamed before a term is added. -/
def renamedTerms : List Step :=
  [.build (.query .terms) "q" { positional := [.plain (.str "user"), .plain (.str "ann")] },
    .call "q" "field" { positional := [.plain (.str "author")] } {},
    .call "q" "terms" { positional := [.plain (.str "bob")] } {}]

/-- A number that is too long for the platform is stored, but not written. -/
example : (({ platform := { digits := some 3 } } : Session).runSteps
      [.build (.query .matchAll) "q" {},
        .call "q" "boost" { positional := [.plain (.int 1000)] } {},
        .call "q" "to_string" {} {}]).map (·.response) =
    [.ok .nothing, .ok .self, .error (.fault (.unwritten .tooManyDigits))] := rfl

end Session

end SearchBuilder
