import SearchBuilder.Catalog
import SearchBuilder.Proofs.Document.Arguments
import SearchBuilder.Proofs.Document.Lists
import SearchBuilder.Proofs.Document.Spots

/-!
# Locality of operations

Most operations read and write a few spots of a node and no others. `Operation.run_alike` says both
at once: on two nodes that look the same at these spots, a call answers alike and puts the same
values at the same spots.

The receiver as an argument is another look at the whole node. Where it is neither stored nor
accepted, a call is local with it too.
-/

namespace SearchBuilder

/-! ## Arguments -/

/-- Two nodes store the same for an argument, whatever has been put into both. -/
def Argument.StoredAlike (n m : Node) (v : Argument) : Prop :=
  ∀ writes, v.toJson (n.puts writes) = v.toJson (m.puts writes)

/-- Two nodes put the same into a slot for an argument, whatever has been put into both. -/
def Argument.CopiedAlike (n m : Node) (v : Argument) : Prop :=
  ∀ writes, v.snapshot (n.puts writes) = v.snapshot (m.puts writes)

namespace Argument

variable {n m : Node} {v : Argument} {e : Expected}

theorem storedAlike_self (n : Node) (v : Argument) : v.StoredAlike n n := fun _ => rfl

/-- An argument without the receiver is stored alike by any two nodes. -/
theorem Foreign.storedAlike (h : v.Foreign) (n m : Node) : v.StoredAlike n m :=
  fun _ => h.toJson_congr _ _

/-- What is stored alike is so after the same writes. -/
theorem StoredAlike.puts (h : v.StoredAlike n m) (writes : List (Spot × Json)) :
    v.StoredAlike (n.puts writes) (m.puts writes) := by
  intro more
  rw [← Node.puts_append, ← Node.puts_append]
  exact h _

theorem StoredAlike.now (h : v.StoredAlike n m) : v.toJson n = v.toJson m := h []

theorem CopiedAlike.now (h : v.CopiedAlike n m) : v.snapshot n = v.snapshot m := h []

/-- What is no node is put into a slot as it is stored elsewhere. -/
theorem StoredAlike.copied (h : v.StoredAlike n m) (hself : v ≠ .receiver) :
    v.CopiedAlike n m := by
  cases v with
  | receiver => exact absurd rfl hself
  | node child => exact fun _ => rfl
  | _ => exact h

/-- Two nodes accept an argument alike where `e` is expected, and copy the same if they do. -/
structure TakenAlike (n m : Node) (e : Expected) (v : Argument) : Prop where
  satisfies : v.satisfies n e = v.satisfies m e
  copied : v.satisfies n e = true → v.CopiedAlike n m

theorem takenAlike_self (n : Node) (e : Expected) (v : Argument) : v.TakenAlike n n e :=
  ⟨rfl, fun _ _ => rfl⟩

/-- An argument that is not the receiver is taken alike. -/
theorem takenAlike_of_ne (n m : Node) (e : Expected) (h : v ≠ .receiver) :
    v.TakenAlike n m e := by
  cases v with
  | receiver => exact absurd rfl h
  | node child => exact ⟨rfl, fun _ _ => rfl⟩
  | _ => exact ⟨rfl, fun hs => by cases hs⟩

/-- A node of another category is not accepted, so not even by itself. -/
theorem takenAlike_of_category (hkind : n.kind = m.kind) {c : Category}
    (hc : n.kind.category ≠ some c) (v : Argument) : v.TakenAlike n m (.category c) := by
  cases v with
  | receiver =>
    have hn : satisfies n (.category c) .receiver = false := decide_eq_false hc
    have hm : satisfies m (.category c) .receiver = false :=
      decide_eq_false fun h => hc ((congrArg Kind.category hkind).trans h)
    exact ⟨hn.trans hm.symm, fun hs => absurd (hn.symm.trans hs) Bool.false_ne_true⟩
  | _ => exact takenAlike_of_ne n m _ Argument.noConfusion

/-- Two nodes accept alike an argument, and each item if it is a list. -/
structure AcceptedAlike (n m : Node) (e : Expected) (v : Argument) : Prop where
  one : v.TakenAlike n m e
  items : ∀ items, v.items? = some items → ∀ item ∈ items, item.TakenAlike n m e

/-- An argument about other nodes is accepted and copied alike. -/
theorem IsOther.acceptedAlike (h : v.IsOther) (n m : Node) (e : Expected) :
    v.AcceptedAlike n m e where
  one := takenAlike_of_ne n m e h.self
  items := by
    intro items hitems item hitem
    refine takenAlike_of_ne n m e ?_
    rintro rfl
    exact h.items items hitems hitem

theorem AcceptedAlike.all (h : v.AcceptedAlike n m e) {items : List Argument}
    (hitems : v.items? = some items) :
    items.all (·.satisfies n e) = items.all (·.satisfies m e) ∧
      (items.all (·.satisfies n e) = true →
        items.map (·.snapshot n) = items.map (·.snapshot m)) := by
  have hone := h.items items hitems
  refine ⟨?_, fun hall => ?_⟩
  · rw [Bool.eq_iff_iff, List.all_eq_true, List.all_eq_true]
    exact forall₂_congr fun item hitem => by rw [(hone item hitem).satisfies]
  · exact List.map_congr_left fun item hitem =>
      ((hone item hitem).copied (List.all_eq_true.1 hall item hitem)).now

end Argument

/-! ## Outcomes -/

/-- What an answer says. -/
def Answer.value? : Answer → Option Json
  | .self => none
  | .value j | .part _ j => some j
  | .text w => some (.str w.text)

/-- Two calls, on `n` and on `m`, that answer alike and put the same values at some spots. Answers
are the same if the two nodes have the same slot and the same inner key; without that, parts of
their fragments may stand under different keys. -/
structure Outcome.Alike (n m : Node) (spots : List Spot) (o p : Outcome Node) : Prop where
  value : o.answer.map Answer.value? = p.answer.map Answer.value?
  answer : n.slot = m.slot → n.inner = m.inner → o.answer = p.answer
  writes : ∃ writes : List (Spot × Json), (∀ write ∈ writes, write.1 ∈ spots) ∧
    o.state = n.puts writes ∧ p.state = m.puts writes

namespace Outcome.Alike

variable {n m : Node} {spots spots' : List Spot} {o p : Outcome Node}

/-- Calls that change nothing and answer the same. -/
theorem still (ho : o.state = n) (hp : p.state = m) (h : o.answer = p.answer) :
    Alike n m spots o p :=
  ⟨congrArg _ h, fun _ _ => h, [], by simp, ho, hp⟩

theorem failed (fault : Fault) : Alike n m spots (.failed n fault) (.failed m fault) :=
  still rfl rfl rfl

theorem refused (cause : Misuse) : Alike n m spots (.refused n cause) (.refused m cause) :=
  still rfl rfl rfl

/-- Calls that have put the same values and answer alike. -/
theorem wrote {writes : List (Spot × Json)} (h : ∀ write ∈ writes, write.1 ∈ spots)
    (ho : o.state = n.puts writes) (hp : p.state = m.puts writes) (hanswer : o.answer = p.answer) :
    Alike n m spots o p :=
  ⟨congrArg _ hanswer, fun _ _ => hanswer, writes, h, ho, hp⟩

/-- Calls that put one more value at the end. -/
theorem put {writes : List (Spot × Json)} (h : ∀ write ∈ writes, write.1 ∈ spots) {s : Spot}
    (hs : s ∈ spots) {value : Json} (ho : o.state = (n.puts writes).put s value)
    (hp : p.state = (m.puts writes).put s value) (hanswer : o.answer = p.answer) :
    Alike n m spots o p := by
  have hputs (n : Node) : (n.puts writes).put s value = n.puts (writes ++ [(s, value)]) := by
    rw [Node.puts_append]
    rfl
  refine wrote (fun write hwrite => ?_) (ho.trans (hputs n)) (hp.trans (hputs m)) hanswer
  rcases List.mem_append.1 hwrite with hfirst | hlast
  · exact h write hfirst
  · rw [List.mem_singleton.1 hlast]
    exact hs

/-- Calls that put one value. -/
theorem putOnce {s : Spot} {value : Json} (ho : o.state = n.put s value)
    (hp : p.state = m.put s value) (hanswer : o.answer = p.answer) : Alike n m [s] o p :=
  put (fun _ hwrite => absurd hwrite List.not_mem_nil) (List.mem_singleton_self s) ho hp hanswer

/-- Outcomes that are alike on some spots are alike on more. -/
theorem mono (h : Alike n m spots o p) (hsub : ∀ s ∈ spots, s ∈ spots') :
    Alike n m spots' o p := by
  obtain ⟨writes, hwrites, ho, hp⟩ := h.writes
  exact ⟨h.value, h.answer, writes, fun write hwrite => hsub _ (hwrites write hwrite), ho, hp⟩

/-- A second call is on the nodes as the first left them. -/
theorem andThen {first : List Spot} {next next' : Node → Outcome Node}
    (h : Alike n m first o p) (hsub : ∀ s ∈ first, s ∈ spots)
    (hnext : ∀ writes, (∀ write ∈ writes, write.1 ∈ first) →
      Alike (n.puts writes) (m.puts writes) spots (next (n.puts writes))
        (next' (m.puts writes))) :
    Alike n m spots (o.andThen next) (p.andThen next') := by
  obtain ⟨writes, hwrites, ho, hp⟩ := h.writes
  have hvalue := h.value
  have hsecond := hnext writes hwrites
  unfold Outcome.andThen
  cases hanswer : o.answer with
  | error fault =>
    cases hanswer' : p.answer with
    | error fault' => exact h.mono hsub
    | ok _ =>
      rw [hanswer, hanswer'] at hvalue
      cases hvalue
  | ok _ =>
    cases hanswer' : p.answer with
    | error _ =>
      rw [hanswer, hanswer'] at hvalue
      cases hvalue
    | ok _ =>
      obtain ⟨more, hmore, hn, hm⟩ := hsecond.writes
      refine ⟨?_, fun hslot hinner => ?_, writes ++ more, fun write hwrite => ?_, ?_, ?_⟩
      · simpa only [ho, hp] using hsecond.value
      · simpa only [ho, hp] using hsecond.answer (by simpa using hslot) (by simpa using hinner)
      · rcases List.mem_append.1 hwrite with hfirst | hlast
        · exact hsub _ (hwrites write hfirst)
        · exact hmore write hlast
      · simpa only [ho, Node.puts_append] using hn
      · simpa only [hp, Node.puts_append] using hm

end Outcome.Alike

/-! ## Spots of operations -/

namespace BucketMethod

/-- The keys that a method writes. -/
def keys : BucketMethod → List String
  | pattern key => [key]
  | regex => ["regex", "regex_flags"]
  | order => ["order"]
  | bounds => ["extended_bounds"]
  | range => ["ranges"]
  | noSubAggregations => []

end BucketMethod

/-- The key of the section that a method writes. -/
def BodyMethod.key : BodyMethod → String
  | sort => "sort"
  | source => "_source"
  | suggest => "suggest"
  | indexBoost => "indices_boost"

namespace Operation

/-- The spots that an operation reads and writes, if these are all that it depends on. -/
def spots? : Operation → Option (List Spot)
  | .accessor a => some [.option a.place a.key]
  | .field .value | .field .terms | .geo .distancePoint => some [.field]
  | .field .fieldList => some [.option .body "fields"]
  | .geo (.corner key) => some [.option .inner key]
  | .geo .origin => some [.option .inner "origin"]
  | .bucket m => some (m.keys.map (.option .inner))
  | .sort (.direction _) => some [.option .body "order"]
  | .suggestion .linearSmoothing | .suggestion .laplaceSmoothing
  | .suggestion .backoffSmoothing => some [.option .inner "smoothing"]
  | .suggestion .changeTags => some [.option .inner "highlight"]
  | .body m => some [.option .root m.key]
  | _ => none

/-- The arguments that an operation stores whatever they are. -/
def stored (op : Operation) (args : Arguments) : List Argument :=
  let pair (others : List String) (name : String) := [args.first others, args.get 1 name]
  match op with
  | .accessor (.option _ _) | .field .value | .field .terms | .field .fieldList
  | .geo .pointPair | .sort .script | .suggestion .laplaceSmoothing
  | .suggestion .backoffSmoothing | .suggestion (.fuzzyOption _) => [args.first]
  | .highlight (.option _) => [args.first ["field"]]
  | .geo .distancePoint | .geo (.corner _) =>
    match args.first ["lon"] with
    | .node _ | .receiver => []
    | _ => pair ["lon"] "lon"
  | .geo .origin =>
    match args.first with
    | .receiver => []
    | v => [v]
  | .bucket (.pattern _) | .bucket .regex => pair ["flags"] "flags"
  | .bucket .bounds => [args.get 0 "minimum", args.get 1 "maximum"]
  | .bucket .range => [args.get 0 "lower", args.get 1 "upper", args.get 2 "key"]
  | .suggestion .linearSmoothing =>
    [args.get 0 "trigram", args.get 1 "bigram", args.get 2 "unigram"]
  | .suggestion .changeTags => [args.get 0 "pre_tag", args.get 1 "post_tag"]
  | .body .indexBoost => [args.get 1 "boost"]
  | _ => []

end Operation

/-- A call that is given the receiver nowhere stores it nowhere. -/
theorem Arguments.Foreign.stored {args : Arguments} (h : args.Foreign) (op : Operation) :
    ∀ a ∈ op.stored args, a.Foreign := by
  unfold Operation.stored
  repeat' split
  all_goals simp [h.first, h.get]

namespace Operation

/-- What an operation expects of the nodes that it stores. -/
def expected? : Operation → Option Expected
  | .accessor (.child _ _ e) | .accessor (.children _ _ e) | .accessor (.section _ _ e) => some e
  | .geo .distancePoint | .geo (.corner _) | .geo .origin | .sort .geoDistance =>
    some (.category .geoPoint)
  | .body .sort => some (.category .sort)
  | .body .suggest => some (.category .suggest)
  | _ => none

/-- A call that does not put the receiver into itself: it stores no argument with the receiver in
it, and no node of the kind is accepted unless it is another one. -/
structure Detached (op : Operation) (k : Kind) (args : Arguments) : Prop where
  stored : ∀ a ∈ op.stored args, a.Foreign
  accepted : ∀ e, op.expected? = some e →
    (∀ others, (args.first others).IsOther) ∨ ∃ c, e = .category c ∧ k.category ≠ some c

/-- A call that stores nothing with the receiver in it, on a kind whose category is not expected. -/
theorem detached {op : Operation} {k : Kind} {args : Arguments}
    (hstored : ∀ a ∈ op.stored args, a.Foreign) (hspan : op.expected? ≠ some .spanQuery)
    (hself : ∀ c, op.expected? = some (.category c) → k.category ≠ some c) :
    op.Detached k args where
  stored := hstored
  accepted := by
    intro e he
    cases e with
    | spanQuery => exact absurd he hspan
    | category c => exact .inr ⟨c, rfl, hself c he⟩

/-- Two nodes take the arguments of a call alike. -/
structure Agree (op : Operation) (n m : Node) (args : Arguments) : Prop where
  stored : ∀ a ∈ op.stored args, a.StoredAlike n m
  accepted : ∀ e, op.expected? = some e → ∀ others, (args.first others).AcceptedAlike n m e

theorem agree_self (op : Operation) (n : Node) (args : Arguments) : op.Agree n n args where
  stored := fun a _ => a.storedAlike_self n
  accepted := fun e _ others =>
    ⟨(args.first others).takenAlike_self n e, fun _ _ item _ => item.takenAlike_self n e⟩

/-- A call that does not look at its receiver agrees with itself on any two nodes. -/
theorem Detached.agree {op : Operation} {n m : Node} {args : Arguments}
    (h : op.Detached n.kind args) (hkind : n.kind = m.kind) : op.Agree n m args where
  stored := fun a ha => (h.stored a ha).storedAlike n m
  accepted := by
    intro e he others
    rcases h.accepted e he with hother | ⟨c, rfl, hc⟩
    · exact (hother others).acceptedAlike n m e
    · exact ⟨Argument.takenAlike_of_category hkind hc _,
        fun _ _ item _ => Argument.takenAlike_of_category hkind hc item⟩

end Operation

/-! ## Steps -/

namespace Node

variable {n m : Node} {s : Spot}

/-- A spot has one path in nodes of the same names. -/
theorem spotPath_congr (hslot : n.slot = m.slot) (hinner : n.inner = m.inner) (s : Spot) :
    n.spotPath s = m.spotPath s := by
  unfold spotPath
  rw [hinner]
  cases s.place <;> simp only [path, hslot, hinner]

/-- Reads of a spot that holds the same. -/
theorem read_alike (s : Spot) (value : Json) : Outcome.Alike n m [s]
    { state := n, answer := .ok (.part (n.spotPath s) value) }
    { state := m, answer := .ok (.part (m.spotPath s) value) } :=
  ⟨rfl, fun hslot hinner => by rw [spotPath_congr hslot hinner], [], by simp, rfl, rfl⟩

theorem readOption_alike (h : n.look s = m.look s) : Outcome.Alike n m [s]
    (n.readOption s.place (s.key n.inner)) (m.readOption s.place (s.key m.inner)) := by
  rw [readOption_eq, readOption_eq, ← h]
  cases n.look s with
  | none => exact .failed _
  | some held =>
    cases held with
    | none => exact .still rfl rfl rfl
    | some value => exact read_alike s value

/-- Reads further along from a key of the fragment that holds the same. -/
theorem readThrough_alike {key : String}
    (h : n.look (.option .root key) = m.look (.option .root key)) (rest : Path) :
    Outcome.Alike n m [.option .root key] (n.readThrough (key :: rest))
      (m.readThrough (key :: rest)) := by
  have hkey : n.fragment.look [key] = m.fragment.look [key] := h
  obtain ⟨hopens, hpart⟩ := Json.opens_part?_congr hkey rest
  refine .still (n.readThrough_state _) (m.readThrough_state _) ?_
  unfold readThrough readPart
  rw [hopens, hpart]
  split
  · split <;> rfl
  · rfl

theorem readHeld_alike (h : n.look s = m.look s) : Outcome.Alike n m [s]
    (n.readHeld s.place (s.key n.inner)) (m.readHeld s.place (s.key m.inner)) := by
  rw [readHeld_eq, readHeld_eq, ← h]
  cases n.look s with
  | none => exact .failed _
  | some held =>
    cases held with
    | none => exact .failed _
    | some value => exact read_alike s value

/-- Nodes that hold the same at a spot are alike after a value is set there. -/
theorem writeOption_alike (h : n.look s = m.look s) {value value' : Json}
    (hvalue : value = value') : Outcome.Alike n m [s]
    (n.writeOption s.place (s.key n.inner) value)
    (m.writeOption s.place (s.key m.inner) value') := by
  subst hvalue
  rw [writeOption_eq, writeOption_eq, ← h]
  cases n.look s with
  | none => exact .failed _
  | some held => exact .putOnce rfl rfl rfl

theorem opened_alike (h : n.look s = m.look s) (start : Json) :
    ∃ writes : List (Spot × Json), (∀ write ∈ writes, write.1 ∈ [s]) ∧
      n.opened s start = n.puts writes ∧ m.opened s start = m.puts writes := by
  unfold opened
  rw [← h]
  split
  · exact ⟨[(s, start)], by simp, rfl, rfl⟩
  · exact ⟨[], by simp, rfl, rfl⟩

theorem appendItem_alike (h : n.look s = m.look s) {item item' : Node → Json}
    (hitem : ∀ writes, item (n.puts writes) = item' (m.puts writes)) : Outcome.Alike n m [s]
    (n.appendItem s.place (s.key n.inner) item) (m.appendItem s.place (s.key m.inner) item') := by
  obtain ⟨writes, hwrites, hn, hm⟩ := opened_alike h (.arr [])
  rw [appendItem_eq, appendItem_eq, ← h]
  cases n.look s with
  | none => exact .failed _
  | some held =>
    simp only [hn, hm, hitem]
    cases held.getD (.arr []) with
    | arr items => exact .put hwrites (List.mem_singleton_self s) rfl rfl rfl
    | _ => exact .wrote hwrites rfl rfl rfl

theorem appendHeld_alike (h : n.look s = m.look s) {item item' : Json} (hitem : item = item') :
    Outcome.Alike n m [s] (n.appendHeld s.place (s.key n.inner) item)
      (m.appendHeld s.place (s.key m.inner) item') := by
  subst hitem
  rw [appendHeld_eq, appendHeld_eq, ← h]
  cases n.look s with
  | none => exact .failed _
  | some held =>
    cases held with
    | none => exact .failed _
    | some value =>
      cases value with
      | arr items => exact .putOnce rfl rfl rfl
      | _ => exact .failed _

theorem mergeSection_alike (h : n.look s = m.look s) {addition addition' : Node → Json}
    (haddition : ∀ writes, addition (n.puts writes) = addition' (m.puts writes)) :
    Outcome.Alike n m [s] (n.mergeSection s.place (s.key n.inner) addition)
      (m.mergeSection s.place (s.key m.inner) addition') := by
  obtain ⟨writes, hwrites, hn, hm⟩ := opened_alike h .empty
  rw [mergeSection_eq, mergeSection_eq, ← h]
  cases n.look s with
  | none => exact .failed _
  | some held =>
    simp only [hn, hm, haddition]
    split
    · exact .put hwrites (List.mem_singleton_self s) rfl rfl rfl
    · exact .wrote hwrites rfl rfl rfl
    · exact .wrote hwrites rfl rfl rfl
    · exact .wrote hwrites rfl rfl rfl

end Node

/-! ## Accessors -/

namespace Accessor

variable {n m : Node} {a : Accessor}

theorem read_alike (h : n.look (.option a.place a.key) = m.look (.option a.place a.key)) :
    Outcome.Alike n m [.option a.place a.key] (a.read n) (a.read m) := by
  cases a with
  | heldNames place key what => exact Node.readHeld_alike h
  | _ => exact Node.readOption_alike h

theorem write_alike (hkind : n.kind = m.kind)
    (h : n.look (.option a.place a.key) = m.look (.option a.place a.key)) {v : Argument}
    (hstored : ∀ place key, a = .option place key → v.StoredAlike n m)
    (haccepted : ∀ e, (Operation.accessor a).expected? = some e → v.AcceptedAlike n m e) :
    Outcome.Alike n m [.option a.place a.key] (a.write n v) (a.write m v) := by
  have hwrite {value value' : Json} (hvalue : value = value') :
      Outcome.Alike n m [.option a.place a.key] (n.writeOption a.place a.key value)
        (m.writeOption a.place a.key value') := Node.writeOption_alike h hvalue
  have happend {item item' : Node → Json}
      (hitem : ∀ writes, item (n.puts writes) = item' (m.puts writes)) :
      Outcome.Alike n m [.option a.place a.key] (n.appendItem a.place a.key item)
        (m.appendItem a.place a.key item') := Node.appendItem_alike h hitem
  cases a with
  | option place key => exact hwrite (hstored place key rfl).now
  | choice place key words folding =>
    simp only [write, hkind]
    split
    · exact .refused _
    · split
      · exact hwrite rfl
      · exact .still rfl rfl rfl
  | child place key e =>
    have hone := (haccepted e rfl).one
    simp only [write, hone.satisfies]
    split
    · next hs => exact hwrite (hone.copied (hone.satisfies.trans hs)).now
    · exact .refused _
  | children place key e =>
    have hboth := haccepted e rfl
    simp only [write]
    split
    · next items hitems =>
      obtain ⟨hall, hmap⟩ := hboth.all hitems
      rw [← hall]
      split
      · next hs => exact hwrite (congrArg Json.arr (hmap hs))
      · exact .refused _
    · rw [hboth.one.satisfies]
      split
      · next hs => exact happend (hboth.one.copied (hboth.one.satisfies.trans hs))
      · exact .refused _
  | «section» place key e =>
    have hone := (haccepted e rfl).one
    simp only [write, hone.satisfies]
    split
    · next hs => exact Node.mergeSection_alike h (hone.copied (hone.satisfies.trans hs))
    · exact .refused _
  | names place key what =>
    simp only [write]
    split
    · exact hwrite rfl
    · exact .refused _
  | growingNames place key what =>
    simp only [write]
    split
    · exact happend fun _ => rfl
    · split
      · exact hwrite rfl
      · exact .refused _
  | heldNames place key what =>
    simp only [write]
    split
    · exact Node.appendHeld_alike h rfl
    · split
      · exact hwrite rfl
      · exact .refused _
  | number place key =>
    simp only [write]
    split
    · exact hwrite rfl
    · exact hwrite rfl
    · exact .refused _
  | integer place key =>
    simp only [write]
    split
    · exact hwrite rfl
    · exact .refused _

/-- An accessor does the same on nodes that hold the same at its spot. -/
theorem run_alike (hkind : n.kind = m.kind)
    (h : n.look (.option a.place a.key) = m.look (.option a.place a.key)) {v : Argument}
    (hstored : ∀ place key, a = .option place key → v.StoredAlike n m)
    (haccepted : ∀ e, (Operation.accessor a).expected? = some e → v.AcceptedAlike n m e) :
    Outcome.Alike n m [.option a.place a.key] (a.run n v) (a.run m v) := by
  unfold run
  split
  · exact read_alike h
  · exact write_alike hkind h hstored haccepted

end Accessor

/-! ## Other methods -/

variable {n m : Node} {args : Arguments}

theorem FieldMethod.termsOf_congr {v : Argument} (h : v.StoredAlike n m) :
    termsOf n v = termsOf m v := by
  unfold termsOf
  split
  · next items hitems =>
    rw [← v.toJson_of_items hitems, ← v.toJson_of_items hitems]
    exact h.now
  · rw [h.now]

/-- A method about a field does the same on nodes that hold the same at its spot. -/
theorem FieldMethod.run_alike {f : FieldMethod} {s : Spot}
    (hspot : (Operation.field f).spots? = some [s]) (h : n.look s = m.look s)
    (hargs : (Operation.field f).Agree n m args) :
    Outcome.Alike n m [s] (f.run n args) (f.run m args) := by
  cases f with
  | rename | renameIfSet => cases hspot
  | value =>
    cases hspot
    have hv := hargs.stored args.first List.mem_cons_self
    simp only [run, Accessor.run, Accessor.read, Accessor.write, Accessor.place, Accessor.key]
    split
    · exact Node.readOption_alike (s := .field) h
    · exact Node.writeOption_alike (s := .field) h hv.now
  | terms =>
    cases hspot
    have hv := hargs.stored args.first List.mem_cons_self
    simp only [run]
    split
    · exact Node.readHeld_alike (s := .field) h
    · split
      · exact Node.writeOption_alike (s := .field) h (termsOf_congr hv)
      · exact Node.appendHeld_alike (s := .field) h hv.now
  | fieldList =>
    cases hspot
    have hv := hargs.stored args.first List.mem_cons_self
    simp only [run]
    split
    · exact Node.readOption_alike (s := .option .body "fields") h
    · split
      · exact Node.writeOption_alike (s := .option .body "fields") h (termsOf_congr hv)
      · exact .refused _

namespace GeoMethod

/-- A point is taken alike by nodes that take its arguments alike. -/
theorem pointValue_congr {point lon : Argument} (form : Json → Json → Json)
    (hpoint : point.TakenAlike n m (.category .geoPoint))
    (hpair : (∀ child, point ≠ .node child) → point ≠ .receiver →
      point.StoredAlike n m ∧ lon.StoredAlike n m) :
    pointValue n point lon form = pointValue m point lon form := by
  have hnode : point.isNode n = point.isNode m := by cases point <;> rfl
  unfold pointValue
  rw [hpoint.satisfies, hnode]
  split
  · next hs => rw [(hpoint.copied (hpoint.satisfies.trans hs)).now]
  · split
    · rfl
    · next hgiven =>
      obtain ⟨hstored, hlon⟩ := hpair
        (by rintro child rfl; simp [Argument.isNode, Argument.child?] at hgiven)
        (by rintro rfl; simp [Argument.isNode, Argument.child?] at hgiven)
      rw [hstored.now, hlon.now]

/-- A latitude and a longitude are stored as they are. -/
theorem pair_alike {g : GeoMethod} (hg : (Operation.geo g).stored args =
      (Operation.geo .distancePoint).stored args) (hargs : (Operation.geo g).Agree n m args)
    (hnode : ∀ child, args.first ["lon"] ≠ .node child) (hself : args.first ["lon"] ≠ .receiver) :
    (args.first ["lon"]).StoredAlike n m ∧ (args.get 1 "lon").StoredAlike n m := by
  have hstored := hargs.stored
  rw [hg] at hstored
  simp only [Operation.stored] at hstored
  exact ⟨hstored _ List.mem_cons_self, hstored _ (List.mem_cons_of_mem _ List.mem_cons_self)⟩

theorem run_alike {g : GeoMethod} {s : Spot} (hspot : (Operation.geo g).spots? = some [s])
    (h : n.look s = m.look s) (hargs : (Operation.geo g).Agree n m args) :
    Outcome.Alike n m [s] (g.run n args) (g.run m args) := by
  cases g with
  | pointProperties | pointText | pointHash | pointPair => cases hspot
  | distancePoint =>
    cases hspot
    simp only [run]
    split
    · exact Node.readOption_alike (s := .field) h
    · rw [pointValue_congr _ (hargs.accepted _ rfl _).one (pair_alike rfl hargs)]
      split
      · exact Node.writeOption_alike (s := .field) h rfl
      · exact .refused _
  | corner key =>
    cases hspot
    simp only [run]
    split
    · exact Node.readOption_alike (s := .option .inner key) h
    · rw [pointValue_congr _ (hargs.accepted _ rfl _).one (pair_alike (g := .corner key) rfl hargs)]
      split
      · exact Node.writeOption_alike (s := .option .inner key) h rfl
      · exact .refused _
  | origin =>
    cases hspot
    have hone := (hargs.accepted _ rfl []).one
    have hnode : args.first.isNode n = args.first.isNode m := by cases args.first <;> rfl
    simp only [run, hone.satisfies, hnode]
    split
    · exact Node.readOption_alike (s := .option .inner "origin") h
    · split
      · exact .refused _
      · next hkept =>
        refine Node.writeOption_alike (s := .option .inner "origin") h (Argument.CopiedAlike.now ?_)
        have hstored := hargs.stored
        simp only [Operation.stored] at hstored
        split at hstored
        · next hself =>
          -- The receiver is stored only if it is a geo point, and then it is accepted as one.
          refine hone.copied ?_
          rw [hself] at hkept hone ⊢
          simpa [Argument.isNode, Argument.child?, hone.satisfies] using hkept
        · next hself => exact (hstored _ List.mem_cons_self).copied hself

end GeoMethod

theorem BucketMethod.given_congr {pairs : List (String × Argument)}
    (h : ∀ pair ∈ pairs, pair.2.StoredAlike n m) : given n pairs = given m pairs := by
  induction pairs with
  | nil => rfl
  | cons pair rest ih =>
    have hrest := ih fun other hother => h other (List.mem_cons_of_mem _ hother)
    simp only [given] at hrest ⊢
    rw [List.filterMap_cons, List.filterMap_cons, hrest, (h pair List.mem_cons_self).now]

/-- A method of buckets does the same on nodes that hold the same at its spots. -/
theorem BucketMethod.run_alike {b : BucketMethod} (hkind : n.kind = m.kind)
    (h : ∀ key ∈ b.keys, n.look (.option .inner key) = m.look (.option .inner key))
    (hargs : (Operation.bucket b).Agree n m args) :
    Outcome.Alike n m (b.keys.map (.option .inner)) (b.run n args) (b.run m args) := by
  cases b with
  | pattern key =>
    have hlook := h key List.mem_cons_self
    have hv := hargs.stored (args.first ["flags"]) List.mem_cons_self
    have hflags := hargs.stored (args.get 1 "flags") (List.mem_cons_of_mem _ List.mem_cons_self)
    simp only [run]
    split
    · exact Node.readOption_alike (s := .option .inner key) hlook
    · refine Node.writeOption_alike (s := .option .inner key) hlook ?_
      rw [hv.now, given_congr (m := m) (by simpa using hflags)]
  | regex =>
    have hlook := h "regex" List.mem_cons_self
    have hv := hargs.stored (args.first ["flags"]) List.mem_cons_self
    have hflags := hargs.stored (args.get 1 "flags") (List.mem_cons_of_mem _ List.mem_cons_self)
    simp only [run]
    split
    · exact (Node.readOption_alike (s := .option .inner "regex") hlook).mono (by simp [keys])
    · refine (Node.writeOption_alike (s := .option .inner "regex") hlook hv.now).andThen
        (by simp [keys]) fun writes hwrites => ?_
      have hkept (n : Node) : (n.puts writes).look (.option .inner "regex_flags") =
          n.look (.option .inner "regex_flags") := by
        refine Node.look_puts_of_apart fun write hwrite => ?_
        rw [List.mem_singleton.1 (hwrites write hwrite)]
        exact Path.apart_of_ne _ (show "regex" ≠ "regex_flags" by decide)
      have hnext : (n.puts writes).look (.option .inner "regex_flags") =
          (m.puts writes).look (.option .inner "regex_flags") :=
        (hkept n).trans ((h "regex_flags" (by simp [keys])).trans (hkept m).symm)
      split
      · exact .still rfl rfl rfl
      · exact (Node.writeOption_alike (s := .option .inner "regex_flags") hnext
          (hflags writes)).mono (by simp [keys])
  | order =>
    have hlook := h "order" List.mem_cons_self
    simp only [run]
    split
    · exact Node.readOption_alike (s := .option .inner "order") hlook
    · split
      · exact .failed _
      · next word notices hdirection =>
        have hwrite := Node.writeOption_alike (s := .option .inner "order") hlook
          (rfl : Json.obj [((args.first ["direction"]).name, .str word)] = _)
        exact ⟨hwrite.value, hwrite.answer, hwrite.writes⟩
  | bounds =>
    have hlook := h "extended_bounds" List.mem_cons_self
    have hlow := hargs.stored (args.get 0 "minimum") List.mem_cons_self
    have hhigh := hargs.stored (args.get 1 "maximum") (List.mem_cons_of_mem _ List.mem_cons_self)
    simp only [run]
    split
    · exact Node.readOption_alike (s := .option .inner "extended_bounds") hlook
    · refine Node.writeOption_alike (s := .option .inner "extended_bounds") hlook ?_
      rw [given_congr (m := m) (by simpa using ⟨hlow, hhigh⟩)]
  | range =>
    have hlook := h "ranges" List.mem_cons_self
    simp only [run]
    split
    · exact Node.readOption_alike (s := .option .inner "ranges") hlook
    · refine Node.appendItem_alike (s := .option .inner "ranges") hlook fun writes => ?_
      have hpairs : ∀ pair ∈ [("from", args.get 0 "lower"), ("to", args.get 1 "upper"),
          ("key", args.get 2 "key")], pair.2.StoredAlike (n.puts writes) (m.puts writes) := by
        intro pair hpair
        refine (hargs.stored pair.2 ?_).puts writes
        exact List.mem_map_of_mem (f := Prod.snd) hpair
      rw [given_congr hpairs]
  | noSubAggregations =>
    simp only [run, hkind]
    split
    · exact .still rfl rfl rfl
    · exact .refused _

theorem SuggestionMethod.run_alike {g : SuggestionMethod} {s : Spot}
    (hspot : (Operation.suggestion g).spots? = some [s]) (h : n.look s = m.look s)
    (hargs : (Operation.suggestion g).Agree n m args) :
    Outcome.Alike n m [s] (g.run n args) (g.run m args) := by
  cases g with
  | linearSmoothing =>
    cases hspot
    refine Node.writeOption_alike (s := .option .inner "smoothing") h ?_
    have hfirst := (hargs.stored (args.get 0 "trigram") (by simp [Operation.stored])).now
    have hsecond := (hargs.stored (args.get 1 "bigram") (by simp [Operation.stored])).now
    have hthird := (hargs.stored (args.get 2 "unigram") (by simp [Operation.stored])).now
    rw [hfirst, hsecond, hthird]
  | laplaceSmoothing | backoffSmoothing =>
    cases hspot
    refine Node.writeOption_alike (s := .option .inner "smoothing") h ?_
    rw [(hargs.stored args.first List.mem_cons_self).now]
  | changeTags =>
    cases hspot
    have hbefore := (hargs.stored (args.get 0 "pre_tag") (by simp [Operation.stored])).now
    have hafter := (hargs.stored (args.get 1 "post_tag") (by simp [Operation.stored])).now
    simp only [run]
    split
    · exact Node.readOption_alike (s := .option .inner "highlight") h
    · refine Node.writeOption_alike (s := .option .inner "highlight") h ?_
      rw [hbefore, hafter]
  | fuzzy | fuzzyOption => cases hspot

namespace BodyMethod

theorem clause?_congr {v : Argument} (h : v.TakenAlike n m (.category .sort)) :
    clause? n v = clause? m v := by
  unfold clause?
  rw [h.satisfies]
  split
  · rfl
  · split
    · next hs => rw [(h.copied (h.satisfies.trans hs)).now]
    · rfl

theorem clauses_congr {items : List Argument}
    (h : ∀ item ∈ items, item.TakenAlike n m (.category .sort)) :
    items.mapM (clause? n) = items.mapM (clause? m) := by
  induction items with
  | nil => rfl
  | cons item rest ih =>
    have hrest := ih fun later hlater => h later (List.mem_cons_of_mem _ hlater)
    rw [List.mapM_cons, List.mapM_cons, hrest, clause?_congr (h item List.mem_cons_self)]

/-- A method of a body does the same on nodes that hold the same at its spot. -/
theorem run_alike {b : BodyMethod} (h : n.look (.option .root b.key) = m.look (.option .root b.key))
    (hkind : n.kind = m.kind) (hargs : (Operation.body b).Agree n m args) :
    Outcome.Alike n m [.option .root b.key] (b.run n args) (b.run m args) := by
  cases b with
  | sort =>
    have hboth := hargs.accepted _ rfl ["order"]
    simp only [run]
    split
    · exact Node.readOption_alike h
    · split
      · unfold sortBy
        split
        · dsimp only
          split
          · exact Node.appendItem_alike h fun _ => rfl
          · exact .still rfl rfl rfl
        · exact .refused _
      · split
        · next items hitems =>
          rw [clauses_congr (hboth.items items hitems)]
          split
          · exact Node.writeOption_alike h rfl
          · exact .refused _
        · rw [clause?_congr hboth.one]
          split
          · exact Node.appendItem_alike h fun _ => rfl
          · exact .refused _
  | source =>
    simp only [run]
    split
    · exact Node.readOption_alike h
    · split
      · exact Node.writeOption_alike h rfl
      · exact .refused _
      · split
        · exact Node.writeOption_alike h rfl
        · exact .refused _
  | suggest =>
    simp only [run]
    split
    · exact Node.mergeSection_alike h fun _ => rfl
    · refine Accessor.run_alike (a := .section .root "suggest" (.category .suggest)) hkind h
        (fun _ _ heq => by cases heq) fun e he => ?_
      cases he
      exact hargs.accepted _ rfl []
  | indexBoost =>
    have hboost := hargs.stored (args.get 1 "boost") List.mem_cons_self
    simp only [run]
    split
    · exact Node.readOption_alike h
    · split
      · exact Node.readThrough_alike h _
      · exact Node.mergeSection_alike h fun writes => by rw [hboost writes]

end BodyMethod

/-! ## Operations -/

/-- On two nodes that look the same at the spots of an operation, it answers alike and puts the same
values at the same spots. -/
theorem Operation.run_alike {op : Operation} {spots : List Spot} (hspots : op.spots? = some spots)
    (hkind : n.kind = m.kind) (hlook : ∀ s ∈ spots, n.look s = m.look s)
    (hargs : op.Agree n m args) : Outcome.Alike n m spots (op.run n args) (op.run m args) := by
  cases op with
  | accessor a =>
    cases hspots
    refine Accessor.run_alike hkind (hlook _ List.mem_cons_self) ?_ fun e he =>
      hargs.accepted e he []
    rintro place key rfl
    exact hargs.stored _ List.mem_cons_self
  | field f =>
    obtain ⟨s, rfl⟩ : ∃ s, spots = [s] := by cases f <;> cases hspots <;> exact ⟨_, rfl⟩
    exact f.run_alike hspots (hlook s List.mem_cons_self) hargs
  | geo g =>
    obtain ⟨s, rfl⟩ : ∃ s, spots = [s] := by cases g <;> cases hspots <;> exact ⟨_, rfl⟩
    exact g.run_alike hspots (hlook s List.mem_cons_self) hargs
  | bucket b =>
    cases hspots
    exact b.run_alike hkind (fun key hkey => hlook _ (List.mem_map_of_mem hkey)) hargs
  | sort m =>
    cases m with
    | direction word =>
      cases hspots
      exact Node.writeOption_alike (hlook _ List.mem_cons_self) rfl
    | _ => cases hspots
  | suggestion g =>
    obtain ⟨s, rfl⟩ : ∃ s, spots = [s] := by cases g <;> cases hspots <;> exact ⟨_, rfl⟩
    exact g.run_alike hspots (hlook s List.mem_cons_self) hargs
  | body b =>
    cases hspots
    exact b.run_alike (hlook _ List.mem_cons_self) hkind hargs
  | decay | highlight | inspect => cases hspots

/-- Whether an operation looks at a node as a whole. -/
def Operation.isInspection : Operation → Bool
  | .inspect _ => true
  | _ => false

theorem Inspection.run_state (i : Inspection) (n : Node) : (i.run n).state = n := by
  cases i with
  | fragment => exact n.readPart_state []
  | _ => rfl

/-- An operation changes a node at its spots only. -/
theorem Operation.run_writes {op : Operation} {spots : List Spot}
    (hspots : op.spots? = some spots) (n : Node) (args : Arguments) :
    ∃ writes : List (Spot × Json), (∀ write ∈ writes, write.1 ∈ spots) ∧
      (op.run n args).state = n.puts writes := by
  obtain ⟨writes, hwrites, hstate, -⟩ :=
    (op.run_alike hspots rfl (fun _ _ => rfl) (op.agree_self n args)).writes
  exact ⟨writes, hwrites, hstate⟩

/-! ## Calls -/

/-- A call on a node of a kind that stores nothing with the node itself in it. -/
def Kind.LeavesOutSelf (k : Kind) (call : String × Arguments) : Prop :=
  ∀ op, Entries.get? k.methods call.1 = some op → ∀ a ∈ op.stored call.2, a.Foreign

/-- The node after some calls, accepted or not. -/
def Node.after (n : Node) (calls : List (String × Arguments)) : Node :=
  calls.foldl (fun n call => (n.call call.1 call.2).state) n

theorem Node.after_cons (n : Node) (call : String × Arguments)
    (rest : List (String × Arguments)) :
    n.after (call :: rest) = (n.call call.1 call.2).state.after rest := rfl

theorem Node.after_kind (n : Node) (calls : List (String × Arguments)) :
    (n.after calls).kind = n.kind := by
  induction calls generalizing n with
  | nil => rfl
  | cons call rest ih => exact (ih _).trans (n.call_kind call.1 call.2)

end SearchBuilder
