import SearchBuilder.Proofs.Catalog.Enumerations
import SearchBuilder.Proofs.Request.Enumerations
import SearchBuilder.Proofs.Session.Refusal

/-!
# Enumerated options through a program

In every session that a program reaches, each enumerated option of each object is absent or one of
its words, if the program gives no field the name of an option (`Session.enumerations_canonical`).
`Object.Misses` are the calls that give a setter of such an option none of its words: an unknown
word is dropped with one message, what is no text is refused, and a bucket order falls back to
`desc`, unless its direction is something that counts as set and is no text. The keys of orders are
texts.
-/

namespace SearchBuilder

/-! ## Calls without a word of the option -/

/-- What becomes of a call that gives an enumerated option none of its words. -/
inductive Miss where
  /-- It is dropped with a log message. -/
  | dropped (notice : Notice)
  | failed (fault : Fault)
  /-- The order of the buckets is by a key in descending direction. -/
  | descends (key : String) (notices : List Notice)

/-- A call gives an enumerated option none of its words. -/
inductive Object.Misses : Object → String → Arguments → Miss → Prop
  | unknown {n : Node} {method : String} {op : Operation} {c : Choice} {args : Arguments}
      {word : String} : Entries.get? n.kind.methods method = some op → op.choice? = some c →
      (op.value args).text? = some word → c.folding.apply word ∉ c.words →
      Misses (.node n) method args (.dropped (.ignoredWord c.key n.kind.name word))
  | notText {n : Node} {method : String} {op : Operation} {c : Choice} {args : Arguments} :
      Entries.get? n.kind.methods method = some op → op.choice? = some c →
      (op.value args).isNull = false → (op.value args).text? = none →
      Misses (.node n) method args (.failed (.misuse (.notText c.key)))
  | unknownSearchType {r : Request} {args : Arguments} {word : String} :
      args.first.text? = some word → lower word ∉ Words.searchTypes →
      Misses (.request r) "search_type" args (.dropped (.ignoredWord "search_type" "Request" word))
  | searchTypeNotText {r : Request} {args : Arguments} :
      args.first.isNull = false → args.first.text? = none →
      Misses (.request r) "search_type" args (.failed (.misuse (.notText "search_type")))
  | unknownOrder {r : Request} {args : Arguments} {field word : String} :
      (args.first ["order"]).text? = some field → (args.get 1 "order").text? = some word →
      lower word ∉ BodyMethod.orders →
      Misses (.request r) "sort" args (.dropped (.ignoredOrder field word))
  | orderNotText {r : Request} {args : Arguments} :
      (args.first ["order"]).isNull = false → (args.get 1 "order").isNull = false →
      ((args.first ["order"]).text? = none ∨ (args.get 1 "order").text? = none) →
      Misses (.request r) "sort" args (.failed (.misuse .badSortPair))
  | noDirection {n : Node} {method key : String} {args : Arguments} :
      Entries.get? n.kind.methods method = some (.bucket .order) →
      (args.first ["direction"]).text? = some key → (args.get 1 "direction").isTruthy = false →
      Misses (.node n) method args (.descends key [])
  | unknownDirection {n : Node} {method key : String} {args : Arguments} {word : String} :
      Entries.get? n.kind.methods method = some (.bucket .order) →
      (args.first ["direction"]).text? = some key → (args.get 1 "direction").isTruthy = true →
      (args.get 1 "direction").text? = some word → lower word ∉ BodyMethod.orders →
      Misses (.node n) method args (.descends key [.unknownDirection (lower word)])
  | directionNotText {n : Node} {method : String} {args : Arguments} :
      Entries.get? n.kind.methods method = some (.bucket .order) →
      (args.first ["direction"]).isNull = false → (args.get 1 "direction").isTruthy = true →
      (args.get 1 "direction").text? = none →
      Misses (.node n) method args (.failed .directionNotText)

/-! ## Objects -/

namespace Object

/-- The enumerated options of an object are absent or words, but for what a sort list holds of
foreign sort nodes. -/
def Canonical (foreign : Json → Prop) : Object → Prop
  | node n => n.Canonical
  | request r => r.Canonical foreign

/-- What a session knows of its objects. -/
def Orderly (foreign : Json → Prop) : Object → Prop
  | node n => n.Orderly
  | request r => r.Canonical foreign

variable {foreign : Json → Prop} {o : Object}

theorem Orderly.canonical (h : o.Orderly foreign) : o.Canonical foreign := by
  cases o with
  | node n => exact Node.Orderly.canonical h
  | request r => exact h

/-- What a call does that misses the words of an option. -/
theorem Orderly.call_missed (h : o.Orderly foreign) {method : String} {args : Arguments}
    {miss : Miss} (hmiss : o.Misses method args miss) :
    match miss with
    | .dropped notice => o.call method args = .noticed o notice ∧ notice.severity = .debug
    | .failed fault => o.call method args = .failed o fault
    | .descends key notices => (o.call method args).answer = .ok .self ∧
        (o.call method args).notices = notices ∧ ∃ n, (o.call method args).state = .node n ∧
          n.look (.option .inner "order") = some (some (.obj [(key, .str "desc")])) := by
  have hnode {n : Node} {method : String} {op : Operation}
      (hop : Entries.get? n.kind.methods method = some op) (args : Arguments) :
      (Object.node n).call method args = (op.run n args).map Object.node := by
    simp only [call, Node.call, hop]
  have horder {n : Node} {method : String} (hn : (Object.node n).Orderly foreign)
      (hop : Entries.get? n.kind.methods method = some (.bucket .order)) :
      Enumeration.order.Allows (n.look (.option .inner "order")) := by
    refine Node.Orderly.canonical hn _ _ ?_
    exact List.mem_filterMap.2 ⟨_, Entries.mem_of_get? hop, rfl⟩
  cases hmiss with
  | unknown hop hc hword hunknown =>
    rw [hnode hop, Operation.run_unknown hc hword hunknown]
    exact ⟨rfl, rfl⟩
  | notText hop hc hgiven htext =>
    rw [hnode hop, Operation.run_notText hc hgiven htext]
    rfl
  | unknownSearchType hword hunknown =>
    exact ⟨congrArg (Outcome.map request) (Request.call_searchType_unknown hword hunknown), rfl⟩
  | searchTypeNotText hgiven htext =>
    exact congrArg (Outcome.map request) (Request.call_searchType_notText hgiven htext)
  | unknownOrder hfield hword hunknown =>
    obtain ⟨_, hsorted, -⟩ := Request.Canonical.sort h
    have hcall := hsorted.call_sort args
    rw [sortVerdict_unknown hfield hword hunknown] at hcall
    exact ⟨congrArg (Outcome.map request) hcall, rfl⟩
  | orderNotText hgiven horder hnone =>
    obtain ⟨_, hsorted, -⟩ := Request.Canonical.sort h
    have hcall := hsorted.call_sort args
    rw [sortVerdict_notText hgiven horder hnone] at hcall
    exact congrArg (Outcome.map request) hcall
  | noDirection hop hkey hfalsy =>
    obtain ⟨hanswer, hnotices, hlook⟩ := BucketMethod.run_order (horder h hop) hkey
      (BucketMethod.direction_of_falsy hfalsy)
    rw [hnode hop]
    exact ⟨hanswer, hnotices, _, rfl, hlook⟩
  | unknownDirection hop hkey htruthy hword hunknown =>
    obtain ⟨hanswer, hnotices, hlook⟩ := BucketMethod.run_order (horder h hop) hkey
      (BucketMethod.direction_of_unknown htruthy hword hunknown)
    rw [hnode hop]
    exact ⟨hanswer, hnotices, _, rfl, hlook⟩
  | directionNotText hop hgiven htruthy htext =>
    rw [hnode hop]
    exact congrArg (Outcome.map node)
      (BucketMethod.run_order_notText hgiven (BucketMethod.direction_of_notText htruthy htext))

end Object

/-! ## Programs -/

/-- Concrete kinds are built, and no field is given the name of an option. What is used of foreign
sort nodes is `foreign`. -/
def Discipline.sparing (foreign : Json → Prop) : Discipline where
  uses child := child.category = some .sort → foreign child.fragment
  builds k args :=
    k.isConcrete = true ∧ (k ∈ Kind.withField → k.fieldName args ∉ k.optionKeys)
  calls k method args := k.SparesOptions method args

/-- A sort clause in order has a canonical clause. -/
theorem Node.Orderly.sorts {n : Node} (h : n.Orderly) (foreign : Json → Prop) :
    n.toChild.Sorts foreign := by
  intro hcategory
  have hkind : n.kind = .sort := by
    change n.kind.category = _ at hcategory
    cases hk : n.kind <;> rw [hk] at hcategory <;> first | rfl | cases hcategory
  refine .inl (.inr ?_)
  cases h.framed with
  | clause _ hfragment =>
    exact ⟨_, _, hfragment, (clause_canonical_iff hkind hfragment).1 h.canonical⟩
  | clear hindependent | tidy hindependent =>
    rw [hkind] at hindependent
    cases hindependent
  | unframed hunframed =>
    rw [hkind] at hunframed
    cases hunframed

theorem Discipline.sparing_keeps (foreign : Json → Prop) :
    (sparing foreign).Keeps (Object.Orderly foreign) (Child.Sorts foreign) fun _ => True where
  uses := fun _ hforeign hcategory => .inr (hforeign hcategory)
  view := by
    intro o ho
    cases o with
    | node n => exact Node.Orderly.sorts ho foreign
    | request r =>
      obtain ⟨_, hsorted, -⟩ := Request.Canonical.sort ho
      intro hcategory
      change r.body.kind.category = _ at hcategory
      rw [hsorted.kind] at hcategory
      cases hcategory
  build := by
    rintro k args ⟨hconcrete, hname⟩ -
    refine ⟨fun _ _ => ?_, fun _ _ => trivial⟩
    have hbuilt : (k.build args).state.Orderly := Kind.build_orderly hconcrete hname
    unfold Object.build
    split
    · exact Request.build_canonical foreign args
    · exact hbuilt
  call := by
    intro o method args ho hname hargs
    refine ⟨?_, fun _ _ => trivial⟩
    cases o with
    | node n => exact Node.Orderly.call ho hname
    | request r => exact Request.Canonical.call ho method hargs

namespace Session

/-- What a step leaves that misses the words of an option of the object under a name. -/
def Leaves (s : Session) (name : String) (result : StepResult) (notices : List Notice) :
    Miss → Prop
  | .dropped notice => result.session = s ∧ result.response = .ok .self ∧
      result.notices = notices ++ [notice] ∧ notice.severity = .debug
  | .failed fault => result.session = s ∧ result.response = .error (.fault fault)
  | .descends key logged => result.response = .ok .self ∧ result.notices = notices ++ logged ∧
      ∃ n, Entries.get? result.session.bindings name = some (.object (.node n)) ∧
        n.look (.option .inner "order") = some (some (.obj [(key, .str "desc")]))

variable {s : Session} {name method : String} {o : Object} {operands : Operands} {args : Arguments}
  {miss : Miss}

/-- A call without a word of an option is no search. -/
theorem step_missed (ho : Entries.get? s.bindings name = some (.object o))
    (hmiss : o.Misses method args miss) (operands : Operands) (handlers : Handlers) :
    s.step (.call name method operands handlers) = s.callObject name o method operands := by
  simp only [step, call, ho]
  cases o with
  | node n => rfl
  | request r =>
    have hsearch : method ≠ "do_search" := by cases hmiss <;> decide
    exact if_neg hsearch

theorem leaves_of_missed (ho : Entries.get? s.bindings name = some (.object o))
    {foreign : Json → Prop} (horderly : o.Orderly foreign) (hmiss : o.Misses method args miss)
    {notices : List Notice}
    (heval : Operand.evalAll s.scope (some name) operands = (.ok args, notices)) :
    s.Leaves name (s.callObject name o method operands) notices miss := by
  have hcall := horderly.call_missed hmiss
  have hstill : s.bind name (.object o) = s := bind_of_get? ho
  unfold callObject
  rw [heval]
  cases miss with
  | dropped notice =>
    obtain ⟨hcall, hdebug⟩ := hcall
    simp only [hcall]
    exact ⟨hstill, rfl, rfl, hdebug⟩
  | failed fault =>
    change o.call method args = .failed o fault at hcall
    simp only [hcall]
    exact ⟨hstill, rfl⟩
  | descends key logged =>
    obtain ⟨hanswer, hnotices, n, hstate, hlook⟩ := hcall
    have hwritten := (Outcome.written_eq_self s.platform.digits).2 hanswer
    dsimp only
    rw [hwritten]
    simp only [Outcome.written, hnotices, hstate]
    exact ⟨rfl, rfl, n, Entries.get?_set_self .., hlook⟩

/-- In every reachable session the enumerated options of all objects are absent or words, if no
field was given the name of an option. A call that gives one of them a word that it does not know is
dropped with one message, what is no text is refused, and both leave the session as it is. A bucket
order falls back to `desc` instead, but it fails if it is given a direction that counts as set and
is no text. -/
theorem enumerations_canonical (platform : Platform) (foreign : Json → Prop) (steps : List Step) :
    let start : Session := { platform }
    let s := start.after steps
    start.Obeys (.sparing foreign) steps → ∀ name o,
      Entries.get? s.bindings name = some (.object o) →
      o.Canonical foreign ∧ ∀ method operands handlers args notices miss,
        Operand.evalAll s.scope (some name) operands = (.ok args, notices) →
        o.Misses method args miss →
        s.Leaves name (s.step (.call name method operands handlers)) notices miss := by
  intro start s hobeys name o ho
  have hall : s.All (Object.Orderly foreign) :=
    (Discipline.sparing_keeps foreign).after steps (all_start platform _) hobeys
  have horderly := hall name o ho
  refine ⟨horderly.canonical, fun method operands handlers args notices miss heval hmiss => ?_⟩
  rw [step_missed ho hmiss operands handlers]
  exact leaves_of_missed ho horderly hmiss heval

/-- A distance whose unit is written with the sign of the kelvin, and a highlight of a field. -/
def foldedWords : List Step :=
  [.build (.filter .geoDistance) "g" { positional := [.plain (.str "pin")] },
    .call "g" "unit" { positional := [.plain (.str "\u212Am")] } {},
    .build .highlight "h" {},
    .call "h" "type" { positional := [.plain (.str "PLAIN"), .plain (.str "title")] } {}]

/-- The unit is kilometers, and a type that is not known adds no field to the highlight. -/
theorem foldedWords_canonical :
    let s := ({} : Session).after foldedWords
    ({} : Session).Obeys (.sparing fun _ => False) foldedWords ∧
      (∃ o : Object, Entries.get? s.bindings "g" = some (.object o) ∧
        o.fragment = .obj [("geo_distance", .obj [("unit", .str "km")])] ∧
        o.Canonical fun _ => False) ∧
      s.Leaves "h" (s.step (.call "h" "type"
          { positional := [.plain (.str "fast"), .plain (.str "body")] } {})) []
        (.dropped (.ignoredWord "type" "Highlight" "fast")) := by
  intro s
  have hobeys : ({} : Session).Obeys (.sparing fun _ => False) foldedWords := by
    refine ⟨⟨⟨⟨trivial, trivial⟩, trivial⟩, fun args hargs => ⟨rfl, fun _ => ?_⟩⟩,
      ⟨⟨⟨trivial, trivial⟩, trivial⟩, fun _ _ _ _ _ _ hrename => nomatch hrename⟩,
      ⟨⟨trivial, trivial⟩, fun _ _ => ⟨rfl, fun hfield => absurd hfield (by decide)⟩⟩,
      ⟨⟨⟨trivial, trivial, trivial⟩, trivial⟩, fun _ _ _ _ _ _ hrename => nomatch hrename⟩,
      trivial⟩
    cases hargs
    decide
  have hcanonical := enumerations_canonical {} (fun _ => False) foldedWords hobeys
  refine ⟨hobeys, ⟨_, rfl, rfl, (hcanonical "g" _ rfl).1⟩, ?_⟩
  -- What the operands stand for is given here, so that nothing is left to be found by evaluation.
  have hmissed := (hcanonical "h" _ rfl).2 "type"
    { positional := [.plain (.str "fast"), .plain (.str "body")] } {}
    { positional := [.plain (.str "fast"), .plain (.str "body")] } []
    (.dropped (.ignoredWord "type" "Highlight" "fast")) rfl
  exact hmissed <| @Object.Misses.unknown _ _ (.highlight (.choice "type" Words.highlighters))
    ⟨"type", Words.highlighters, .lower⟩ _ "fast" rfl rfl rfl (by decide)

end Session

end SearchBuilder
