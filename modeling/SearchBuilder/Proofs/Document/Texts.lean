import SearchBuilder.Document.Operation
import SearchBuilder.Proofs.Document.Arguments
import SearchBuilder.Proofs.Json.Writing

/-!
# Documents that can be written

What a method stores is made of texts, of parts that are there already, of what its arguments give
and of copies of other nodes. So a document can be written as long as the values can that its
methods store as they are given (`Operation.run_writable`). The same case analysis shows that only a
look at a node as a whole answers a text.
-/

namespace SearchBuilder

/-! ## Nodes -/

variable {limit : DigitLimit} {object : Option TextFault}

/-- A node whose fragment can be written. -/
def Node.Writable (limit : DigitLimit) (object : Option TextFault) (n : Node) : Prop :=
  n.fragment.Writable limit object

/-- A call that leaves a node behind that can be written, and that answers no text. -/
structure Outcome.Writable (limit : DigitLimit) (object : Option TextFault) (o : Outcome Node) :
    Prop where
  state : o.state.Writable limit object
  silent : ∀ w, o.answer ≠ .ok (.text w)

/-- A node can be written after two calls if it can after each. -/
theorem Outcome.Writable.andThen {o : Outcome Node} (h : o.Writable limit object)
    {next : Node → Outcome Node}
    (hnext : ∀ n : Node, n.Writable limit object → (next n).Writable limit object) :
    (o.andThen next).Writable limit object := by
  unfold Outcome.andThen
  split
  · exact h
  · exact ⟨(hnext _ h.state).state, (hnext _ h.state).silent⟩

namespace Node

variable {n : Node}

namespace Writable

variable (h : n.Writable limit object)
include h

theorem valueAt (place : Place) : (n.valueAt place).Writable limit object := by
  cases place with
  | root => exact h
  | body => exact Json.Writable.member h n.slot
  | inner => exact (Json.Writable.member h n.slot).member n.inner

theorem replace (place : Place) {value : Json} (hvalue : value.Writable limit object) :
    (n.replace place value).Writable limit object := by
  cases place with
  | root => exact hvalue
  | body => exact Json.Writable.setMember h hvalue n.slot
  | inner =>
    have hbody := (Json.Writable.member h n.slot).setMember hvalue n.inner
    exact Json.Writable.setMember h hbody n.slot

theorem chained : (Outcome.chained n).Writable limit object := ⟨h, fun w hw => by cases hw⟩

theorem shifted (shifts : List Shift) : (Outcome.shifted n shifts).Writable limit object :=
  ⟨h, fun w hw => by cases hw⟩

theorem noticed (notice : Notice) : (Outcome.noticed n notice).Writable limit object :=
  ⟨h, fun w hw => by cases hw⟩

theorem value (j : Json) : (Outcome.value n j).Writable limit object := ⟨h, fun w hw => by cases hw⟩

theorem failed (fault : Fault) : (Outcome.failed n fault).Writable limit object :=
  ⟨h, fun w hw => by cases hw⟩

theorem refused (cause : Misuse) : (Outcome.refused n cause).Writable limit object := h.failed _

theorem readPart (path : Path) : (n.readPart path).Writable limit object := by
  unfold Node.readPart
  split
  · exact ⟨h, fun w hw => by cases hw⟩
  · exact h.value .null

theorem readThrough (path : Path) : (n.readThrough path).Writable limit object := by
  unfold Node.readThrough
  split
  · exact h.readPart path
  · exact h.failed _

theorem readOption (place : Place) (key : String) :
    (n.readOption place key).Writable limit object := by
  unfold Node.readOption
  split
  · exact h.readPart _
  · exact h.failed _

theorem readHeld (place : Place) (key : String) : (n.readHeld place key).Writable limit object := by
  unfold Node.readHeld
  split
  · split
    · exact h.readPart _
    · exact h.failed _
  · exact h.failed _

theorem writeOption (place : Place) (key : String) {value : Json}
    (hvalue : value.Writable limit object) :
    (n.writeOption place key value).Writable limit object := by
  unfold Node.writeOption
  split
  · next target htarget =>
    exact (h.replace place ((h.valueAt place).setMember? hvalue htarget)).shifted _
  · exact h.failed _

theorem openSlot {place : Place} {key : String} {start : Json}
    (hstart : start.Writable limit object) {opened : Node}
    (hopen : n.openSlot place key start = .ok opened) :
    opened.Writable limit object := by
  unfold Node.openSlot at hopen
  split at hopen
  · next members hmembers =>
    cases hopen
    have hset := Entries.forall_setDefault ((h.valueAt place).members hmembers) key hstart
    exact h.replace place (Json.writable_obj.2 hset)
  · cases hopen

theorem appendItem (place : Place) (key : String) {item : Node → Json}
    (hitem : ∀ m : Node, m.Writable limit object → (item m).Writable limit object) :
    (n.appendItem place key item).Writable limit object := by
  unfold Node.appendItem
  split
  · exact h.failed _
  · next opened hopen =>
    have hopened := h.openSlot (Json.writable_ofStrings []) hopen
    dsimp only
    split
    · next items hitems =>
      have hold : (Json.arr items).Writable limit object :=
        hitems ▸ (hopened.valueAt place).member key
      have hlist := hold.append (hitem opened hopened)
      exact (hopened.replace place ((hopened.valueAt place).setMember hlist key)).chained
    · exact hopened.failed _

theorem appendHeld (place : Place) (key : String) {item : Json}
    (hitem : item.Writable limit object) : (n.appendHeld place key item).Writable limit object := by
  unfold Node.appendHeld
  split
  · next members hmembers =>
    have hmembers := (h.valueAt place).members hmembers
    split
    · next items hitems =>
      have hlist := Json.Writable.append (hmembers _ (Entries.mem_of_get? hitems)) hitem
      exact (h.replace place (Json.writable_obj.2 (Entries.forall_set hmembers key hlist))).chained
    · exact h.failed _
    · exact h.failed _
  · exact h.failed _

theorem mergeSection (place : Place) (key : String) {addition : Node → Json}
    (haddition : ∀ m : Node, m.Writable limit object → (addition m).Writable limit object) :
    (n.mergeSection place key addition).Writable limit object := by
  unfold Node.mergeSection
  split
  · exact h.failed _
  · next opened hopen =>
    have hopened := h.openSlot Json.writable_empty hopen
    dsimp only
    split
    · next additions members hadditions hmembers =>
      have hold := Json.writable_obj.1 (hmembers ▸ (hopened.valueAt place).member key)
      have hnew := Json.writable_obj.1 (hadditions ▸ haddition opened hopened)
      have hmerged := Json.writable_obj.2 (Entries.forall_merge hold hnew)
      exact (hopened.replace place ((hopened.valueAt place).setMember hmerged key)).shifted _
    · exact hopened.chained
    · exact hopened.failed _
    · exact hopened.failed _

theorem renameInner (name : String) : (n.renameInner name).Writable limit object := by
  unfold Node.renameInner
  split
  · next members hmembers =>
    have hmoved := h.replace .body ((h.valueAt .body).rekey hmembers n.inner name)
    exact Writable.shifted (n := { n.replace .body _ with inner := name }) hmoved _
  · exact h.failed _

theorem renameClause (field : String) : (n.renameClause field).Writable limit object := by
  unfold Node.renameClause
  split
  · exact h.renameInner field
  · split
    · exact Writable.chained (n := { n with inner := field }) h
    · split
      · next members hmembers =>
        exact Writable.shifted (n := { n with fragment := _, slot := field, inner := field })
          (Json.Writable.rekey h hmembers n.slot field) _
      · exact h.failed _

theorem addField {field : String} {added : Node} (hadd : n.addField field = .ok added) :
    added.Writable limit object := by
  unfold Node.addField at hadd
  split at hadd
  · cases hadd
  · next opened hopen =>
    have hopened := h.openSlot Json.writable_empty hopen
    split at hadd
    · next fields hfields =>
      cases hadd
      have hold := Json.writable_obj.1 (hfields ▸ Json.Writable.member hopened "fields")
      have hset := Json.writable_obj.2 (Entries.forall_setDefault hold field Json.writable_empty)
      exact hopened.replace .root (Json.Writable.setMember hopened hset "fields")
    · cases hadd

end Writable

theorem Writable.addFields {fields : List String} {n added : Node} (h : n.Writable limit object)
    (hadd : fields.foldlM Node.addField n = .ok added) : added.Writable limit object := by
  induction fields generalizing n with
  | nil =>
    cases hadd
    exact h
  | cons field rest ih =>
    rw [List.foldlM_cons] at hadd
    cases hfirst : n.addField field with
    | error fault =>
      rw [hfirst] at hadd
      cases hadd
    | ok first =>
      rw [hfirst] at hadd
      exact ih (h.addField hfirst) hadd

theorem Writable.writeHighlight (h : n.Writable limit object) (key : String) (field : Option String)
    {value : Json} (hvalue : value.Writable limit object) :
    (n.writeHighlight key field value).Writable limit object := by
  unfold Node.writeHighlight
  split
  · exact h.writeOption .root key hvalue
  · next name =>
    split
    · exact h.failed _
    · next opened hadd =>
      have hopened := h.addField hadd
      have hfields : (opened.fragment.member "fields").Writable limit object :=
        Json.Writable.member hopened "fields"
      dsimp only
      split
      · next options hoptions =>
        have hfield := hfields.setMember ((hfields.member name).setMember? hvalue hoptions) name
        exact (hopened.replace .root (Json.Writable.setMember hopened hfield "fields")).shifted _
      · exact hopened.failed _

end Node

/-! ## Arguments -/

/-- The value that an option is given for an argument can be written. -/
def Argument.Writable (limit : DigitLimit) (object : Option TextFault) (a : Argument) : Prop :=
  ∀ n, (a.toJson n).Writable limit object

/-- All nodes of an argument can be written. -/
abbrev Argument.ShowsWritable (limit : DigitLimit) (object : Option TextFault) (a : Argument) :
    Prop := a.Shows (·.fragment.Writable limit object)

namespace Argument

variable {n m : Node} {v : Argument}

/-- The items of an argument can be written if it can. -/
theorem Writable.items (h : v.Writable limit object) {items : List Argument}
    (hitems : v.items? = some items) : ∀ item ∈ items, item.Writable limit object := by
  intro item hitem n
  have hlist := h n
  rw [v.toJson_of_items hitems] at hlist
  exact Json.writable_arr.1 hlist _ (List.mem_map_of_mem hitem)

theorem Writable.termsOf (h : v.Writable limit object) (n : Node) :
    (FieldMethod.termsOf n v).Writable limit object := by
  unfold FieldMethod.termsOf
  split
  · next items hitems => exact v.toJson_of_items hitems n ▸ h n
  · exact Json.writable_arr.2 (List.forall_mem_singleton.2 (h n))

/-- What a slot for other nodes stores can be written if its nodes can. -/
theorem ShowsWritable.snapshot (hv : v.ShowsWritable limit object) (hm : m.Writable limit object)
    (hvalue : v.isNode n = false → v.Writable limit object) :
    (v.snapshot m).Writable limit object := by
  cases hv with
  | node hchild => exact hchild
  | receiver => exact hm
  | _ => exact hvalue rfl m

/-- The copy of a node that a slot expects. -/
theorem ShowsWritable.satisfying (hv : v.ShowsWritable limit object) {expected : Expected}
    (hnode : v.satisfies n expected = true) (hm : m.Writable limit object) :
    (v.snapshot m).Writable limit object := by
  refine hv.snapshot (n := n) hm fun hnone => ?_
  cases v with
  | node child => cases hnone
  | receiver => cases hnone
  | _ => cases hnode

end Argument

/-- The argument, unless it is a node. -/
def Argument.unlessNode : Argument → List Argument
  | .node _ | .receiver => []
  | v => [v]

/-- The arguments of a call. -/
def Arguments.all (args : Arguments) : List Argument :=
  args.positional ++ args.named.map (·.2)

/-- The values that options are given for some arguments can be written. -/
def AllWritable (limit : DigitLimit) (object : Option TextFault) (values : List Argument) : Prop :=
  ∀ a ∈ values, a.Writable limit object

/-- An argument that is no node is among those that are not nodes. -/
theorem Argument.writable_of_unlessNode {v : Argument} (h : AllWritable limit object v.unlessNode)
    {n : Node} (hnode : v.isNode n = false) : v.Writable limit object := by
  cases v with
  | node child => cases hnode
  | receiver => cases hnode
  | _ => exact h _ List.mem_cons_self

namespace Arguments

variable {args : Arguments}

theorem Takes.writable {v : Argument} (h : args.Takes v)
    (hall : AllWritable limit object args.all) :
    v.Writable limit object :=
  h.meets (fun _ => rfl) (fun a ha => hall a (List.mem_append_left _ ha))
    fun _ hentry => hall _ (List.mem_append_right _ (List.mem_map_of_mem hentry))

theorem get_writable (hall : AllWritable limit object args.all) (index : Nat) (name : String) :
    (args.get index name).Writable limit object := (args.get_cases index name).writable hall

theorem first_writable (hall : AllWritable limit object args.all) (others : List String) :
    (args.first others).Writable limit object := (args.first_cases others).writable hall

end Arguments

/-! ## Methods -/

namespace Accessor

/-- The arguments that an accessor stores as they are given. Slots take nodes and the others texts,
but for numbers and for options of any value. -/
def values (v : Argument) : Accessor → List Argument
  | option .. => [v]
  | number .. | integer .. => v.unlessNode
  | _ => []

/-- Children are stored as copies, a list of them as a whole and one of them behind the others. -/
theorem children_writable {n : Node} (hn : n.Writable limit object) {v : Argument}
    (hv : v.ShowsWritable limit object) (place : Place) (key : String) (expected : Expected) :
    ((children place key expected).write n v).Writable limit object := by
  simp only [write]
  split
  · next items hitems =>
    split
    · next hall =>
      refine hn.writeOption place key (Json.writable_arr.2 fun j hj => ?_)
      obtain ⟨item, hitem, rfl⟩ := List.mem_map.1 hj
      have hshown : item.ShowsWritable limit object := Argument.items_show hv hitems item hitem
      exact hshown.satisfying (List.all_eq_true.1 hall item hitem) hn
    · exact hn.refused _
  · split
    · next hsatisfies => exact hn.appendItem place key fun m hm => hv.satisfying hsatisfies hm
    · exact hn.refused _

/-- An accessor keeps a node writable if the values that it stores can be written. -/
theorem run_writable {n : Node} (hn : n.Writable limit object) (a : Accessor) {v : Argument}
    (hv : v.ShowsWritable limit object) (hvalues : AllWritable limit object (a.values v)) :
    (a.run n v).Writable limit object := by
  unfold run
  split
  · cases a <;> first | exact hn.readHeld _ _ | exact hn.readOption _ _
  · cases a with
    | option place key => exact hn.writeOption place key (hvalues v List.mem_cons_self n)
    | child place key expected =>
      simp only [write]
      split
      · next hsatisfies => exact hn.writeOption place key (hv.satisfying hsatisfies hn)
      · exact hn.refused _
    | children place key expected => exact children_writable hn hv place key expected
    | «section» place key expected =>
      simp only [write]
      split
      · next hsatisfies =>
        exact hn.mergeSection place key fun m hm => hv.satisfying hsatisfies hm
      · exact hn.refused _
    | number place key =>
      simp only [write]
      split
      · exact hn.writeOption place key (hvalues _ List.mem_cons_self n)
      · exact hn.writeOption place key (hvalues _ List.mem_cons_self n)
      · exact hn.refused _
    | integer place key =>
      simp only [write]
      split
      · exact hn.writeOption place key (hvalues _ List.mem_cons_self n)
      · exact hn.refused _
    | choice place key words folding =>
      simp only [write]
      (repeat' split) <;>
        first
        | exact hn.refused _
        | exact hn.noticed _
        | exact hn.writeOption place key rfl
    | names place key what =>
      simp only [write]
      split
      · exact hn.writeOption place key (Json.writable_ofStrings _)
      · exact hn.refused _
    | growingNames place key what =>
      simp only [write]
      (repeat' split) <;>
        first
        | exact hn.refused _
        | exact hn.appendItem place key fun _ _ => rfl
        | exact hn.writeOption place key (Json.writable_ofStrings _)
    | heldNames place key what =>
      simp only [write]
      (repeat' split) <;>
        first
        | exact hn.refused _
        | exact hn.appendHeld place key rfl
        | exact hn.writeOption place key (Json.writable_ofStrings _)

end Accessor

section Methods

variable {n : Node} (hn : n.Writable limit object) {args : Arguments}
include hn

/-- What a method about a field stores is among its arguments. -/
theorem FieldMethod.run_writable (m : FieldMethod) (hall : AllWritable limit object args.all) :
    (m.run n args).Writable limit object := by
  have hv := Arguments.first_writable hall []
  cases m with
  | rename =>
    simp only [run]
    split
    · exact hn.value _
    · exact hn.renameInner _
  | renameIfSet =>
    simp only [run]
    split
    · exact hn.value _
    · split
      · split
        · exact hn.renameInner _
        · exact Node.Writable.chained (n := { n with inner := _ }) hn
      · exact hn.failed _
  | value =>
    simp only [run, Accessor.run]
    split
    · exact hn.readOption _ _
    · exact hn.writeOption _ _ (hv n)
  | terms =>
    simp only [run]
    (repeat' split) <;>
      first
      | exact hn.readHeld _ _
      | exact hn.writeOption _ _ (hv.termsOf n)
      | exact hn.appendHeld _ _ (hv n)
  | fieldList =>
    simp only [run]
    (repeat' split) <;>
      first
      | exact hn.readOption _ _
      | exact hn.writeOption _ _ (hv.termsOf n)
      | exact hn.refused _

omit hn in
theorem BucketMethod.given_writable {pairs : List (String × Argument)}
    (hpairs : AllWritable limit object (pairs.map (·.2))) (n : Node) :
    (Json.obj (given n pairs)).Writable limit object := by
  refine Json.writable_obj.2 fun entry hentry => ?_
  obtain ⟨⟨key, v⟩, hpair, hgiven⟩ := List.mem_filterMap.1 hentry
  cases hnull : v.isNull with
  | true =>
    simp only [hnull, if_true] at hgiven
    cases hgiven
  | false =>
    simp only [hnull, Bool.false_eq_true, if_false, Option.some.injEq] at hgiven
    rw [← hgiven]
    exact hpairs v (List.mem_map_of_mem hpair) n

theorem BucketMethod.run_writable (m : BucketMethod) (hall : AllWritable limit object args.all) :
    (m.run n args).Writable limit object := by
  have hfirst := Arguments.first_writable hall
  have hget := Arguments.get_writable hall
  cases m with
  | pattern key =>
    simp only [run]
    split
    · exact hn.readOption _ _
    · have hflags : AllWritable limit object [args.get 1 "flags"] :=
        List.forall_mem_singleton.2 (hget _ _)
      exact hn.writeOption _ _ (Json.writable_cons _ (hfirst _ n) (given_writable hflags n))
  | regex =>
    simp only [run]
    split
    · exact hn.readOption _ _
    · refine (hn.writeOption .inner "regex" (hfirst ["flags"] n)).andThen fun m hm => ?_
      split
      · exact hm.chained
      · exact hm.writeOption _ _ (hget 1 "flags" m)
  | order =>
    simp only [run]
    split
    · exact hn.readOption _ _
    · split
      · exact hn.failed _
      · next word notices _ =>
        have hword : (Json.str word).Writable limit object := rfl
        have horder := Json.writable_cons (args.first ["direction"]).name hword Json.writable_empty
        have hwrite := hn.writeOption .inner "order" horder
        exact ⟨hwrite.state, hwrite.silent⟩
  | bounds =>
    simp only [run]
    split
    · exact hn.readOption _ _
    · refine hn.writeOption _ _ (given_writable ?_ n)
      exact List.forall_mem_cons.2 ⟨hget _ _, List.forall_mem_singleton.2 (hget _ _)⟩
  | range =>
    simp only [run]
    split
    · exact hn.readOption _ _
    · refine hn.appendItem _ _ fun m _ => given_writable ?_ m
      exact List.forall_mem_cons.2
        ⟨hget _ _, List.forall_mem_cons.2 ⟨hget _ _, List.forall_mem_singleton.2 (hget _ _)⟩⟩
  | noSubAggregations =>
    simp only [run]
    split
    · exact hn.value _
    · exact hn.refused _

theorem HighlightMethod.run_writable (m : HighlightMethod)
    (hall : AllWritable limit object args.all) : (m.run n args).Writable limit object := by
  have hv := Arguments.first_writable hall ["field"]
  cases m with
  | fields =>
    simp only [run]
    split
    · exact hn.readOption _ _
    · split
      · exact hn.failed _
      · next opened hopen =>
        have hopened := hn.openSlot Json.writable_empty hopen
        split
        · exact hopened.refused _
        · split
          · next added hadd => exact (hopened.addFields hadd).chained
          · exact hopened.failed _
  | option key =>
    simp only [run]
    split
    · exact hn.readThrough _
    · exact hn.writeHighlight _ _ (hv n)
  | choice key words =>
    simp only [run]
    (repeat' split) <;>
      first
      | exact hn.readThrough _
      | exact hn.refused _
      | exact hn.noticed _
      | exact hn.writeHighlight _ _ rfl
  | tags key =>
    simp only [run]
    (repeat' split) <;>
      first
      | exact hn.readThrough _
      | exact hn.refused _
      | exact hn.writeHighlight _ _ (Json.writable_ofStrings _)
  | settings key =>
    simp only [run]
    split
    · exact hn.readThrough _
    · split
      · next members hplain =>
        have hobject := hv n
        rw [hplain] at hobject
        exact hn.writeHighlight _ _ hobject
      · exact hn.refused _

theorem SuggestionMethod.run_writable (m : SuggestionMethod)
    (hall : AllWritable limit object args.all) : (m.run n args).Writable limit object := by
  have hfirst := Arguments.first_writable hall []
  have hget := Arguments.get_writable hall
  have hsmoothing (model : String) {settings : Entries Json}
      (hsettings : (Json.obj settings).Writable limit object) :
      (n.writeOption .inner "smoothing" (.obj [(model, .obj settings)])).Writable limit object :=
    hn.writeOption _ _ (Json.writable_single _ hsettings)
  cases m with
  | linearSmoothing =>
    have hlast := Json.writable_single "unigram_lambda" (hget 2 "unigram" n)
    have hlater := Json.writable_cons "bigram_lambda" (hget 1 "bigram" n) hlast
    exact hsmoothing _ (Json.writable_cons _ (hget _ _ n) hlater)
  | laplaceSmoothing => exact hsmoothing _ (Json.writable_single _ (hfirst n))
  | backoffSmoothing => exact hsmoothing _ (Json.writable_single _ (hfirst n))
  | changeTags =>
    simp only [run]
    split
    · exact hn.readOption _ _
    · have hafter := Json.writable_single "post_tag" (hget 1 "post_tag" n)
      exact hn.writeOption _ _ (Json.writable_cons _ (hget _ _ n) hafter)
  | fuzzy =>
    simp only [run]
    split
    · exact hn.readOption _ _
    · split
      · exact hn.failed _
      · next members hmembers =>
        have hmembers := (hn.valueAt .inner).members hmembers
        split
        · have hset := Entries.forall_setDefault hmembers "fuzzy" Json.writable_empty
          exact (hn.replace .inner (Json.writable_obj.2 hset)).chained
        · have herase := Entries.forall_erase hmembers "fuzzy"
          exact (hn.replace .inner (Json.writable_obj.2 herase)).shifted _
  | fuzzyOption key =>
    simp only [run]
    split
    · exact hn.failed _
    · split
      · exact hn.readThrough _
      · exact hn.mergeSection _ _ fun m _ => Json.writable_single key (hfirst m)

theorem DecayMethod.run_writable (m : DecayMethod) : (m.run n).Writable limit object := by
  cases m with
  | choose curve =>
    simp only [run]
    split
    · next members hmembers =>
      exact Node.Writable.shifted (n := { n with fragment := _, slot := curve })
        (Json.Writable.rekey hn hmembers n.slot curve) _
    · exact hn.failed _
  | current => exact hn.value _

end Methods

namespace GeoMethod

/-- The arguments that a method about a place stores as they are given. -/
def values (args : Arguments) : GeoMethod → List Argument
  | distancePoint | corner _ => args.get 1 "lon" :: (args.first ["lon"]).unlessNode
  | origin => args.first.unlessNode
  | _ => args.all

/-- A point can be written, be it a node or a pair. -/
theorem pointValue_writable {n : Node} (hn : n.Writable limit object) {point lon : Argument}
    (hpoint : point.ShowsWritable limit object) (hlon : lon.Writable limit object)
    (hvalues : AllWritable limit object point.unlessNode) {form : Json → Json → Json}
    (hform : ∀ lat lon : Json, lat.Writable limit object → lon.Writable limit object →
      (form lat lon).Writable limit object)
    {j : Json} (hj : pointValue n point lon form = .ok j) : j.Writable limit object := by
  unfold pointValue at hj
  split at hj
  · next hsatisfies =>
    cases hj
    exact hpoint.satisfying hsatisfies hn
  · split at hj
    · cases hj
    · next hplain =>
      cases hj
      simp only [Bool.or_eq_true, not_or, Bool.not_eq_true] at hplain
      exact hform _ _ (Argument.writable_of_unlessNode hvalues hplain.1 n) (hlon n)

/-- A point that is described by its members can be written if the description can. -/
theorem describedPoint_writable {v : Argument} (hv : v.Writable limit object) {n : Node}
    {point : Json} (h : describedPoint? v = some point) : point.Writable limit object := by
  unfold describedPoint? at h
  split at h
  · next members =>
    have hmembers := Json.writable_obj.1 (hv n)
    have hheld {key : String} {value : Json} (hvalue : Entries.get? members key = some value) :
        value.Writable limit object := hmembers _ (Entries.mem_of_get? hvalue)
    split at h
    · next lat lon hlat hlon =>
      cases h
      exact Json.writable_cons _ (hheld hlat) (Json.writable_single _ (hheld hlon))
    · next hash hhash _ =>
      cases h
      exact Json.writable_single _ (hheld hhash)
    · cases h
  · cases h

/-- A pair can be written if its two numbers can. -/
theorem lonLat_writable {v : Argument} (hv : v.Writable limit object) {n : Node} {pair : Json}
    (h : lonLat? n v = some pair) : pair.Writable limit object := by
  unfold lonLat? at h
  split at h
  · next lat lon hitems =>
    cases h
    have hboth := List.forall_mem_cons.1 (hv.items hitems)
    have hlon := hboth.2 lon List.mem_cons_self
    exact Json.writable_pair (hlon n) (hboth.1 n)
  · cases h

theorem run_writable {n : Node} (hn : n.Writable limit object) {args : Arguments}
    (hshow : args.Show (·.fragment.Writable limit object)) (m : GeoMethod)
    (hvalues : AllWritable limit object (m.values args)) :
    (m.run n args).Writable limit object := by
  have hset {point : Json} (hpoint : point.Writable limit object) :
      (n.setPoint point).Writable limit object :=
    Node.Writable.shifted (n := { n with fragment := point }) hpoint _
  cases m with
  | pointProperties =>
    simp only [run]
    split
    · exact hn.readPart _
    · split
      · next point hpoint =>
        exact hset (describedPoint_writable (Arguments.first_writable hvalues []) (n := n) hpoint)
      · exact hn.noticed _
  | pointText =>
    simp only [run]
    (repeat' split) <;> first | exact hn.readPart _ | exact hset rfl | exact hn.chained
  | pointHash =>
    simp only [run]
    (repeat' split) <;> first | exact hn.readPart _ | exact hset rfl | exact hn.chained
  | pointPair =>
    simp only [run]
    split
    · exact hn.readPart _
    · split
      · next pair hpair => exact hset (lonLat_writable (Arguments.first_writable hvalues []) hpair)
      · exact hn.chained
  | distancePoint =>
    obtain ⟨hlon, hpoint⟩ := List.forall_mem_cons.1 hvalues
    simp only [run]
    split
    · exact hn.readOption _ _
    · split
      · next point hvalue =>
        refine hn.writeOption _ _ (pointValue_writable hn (hshow.first _) hlon hpoint ?_ hvalue)
        exact fun _ _ hlat hlon => Json.writable_cons _ hlat (Json.writable_single _ hlon)
      · exact hn.refused _
  | corner key =>
    obtain ⟨hlon, hpoint⟩ := List.forall_mem_cons.1 hvalues
    simp only [run]
    split
    · exact hn.readOption _ _
    · split
      · next point hvalue =>
        refine hn.writeOption _ _ (pointValue_writable hn (hshow.first _) hlon hpoint ?_ hvalue)
        exact fun _ _ hlat hlon => Json.writable_pair hlon hlat
      · exact hn.refused _
  | origin =>
    simp only [run]
    split
    · exact hn.readOption _ _
    · split
      · exact hn.refused _
      · have hpoint : args.first.ShowsWritable limit object := hshow.first []
        have hplain (hnode : args.first.isNode n = false) : args.first.Writable limit object :=
          Argument.writable_of_unlessNode hvalues hnode
        exact hn.writeOption _ _ (hpoint.snapshot hn hplain)

end GeoMethod

namespace SortMethod

/-- The arguments that a method of a sort clause stores as they are given. -/
def values (args : Arguments) : SortMethod → List Argument
  | geoDistance => []
  | _ => args.all

theorem run_writable {n : Node} (hn : n.Writable limit object) {args : Arguments}
    (hshow : args.Show (·.fragment.Writable limit object)) (m : SortMethod)
    (hvalues : AllWritable limit object (m.values args)) :
    (m.run n args).Writable limit object := by
  have hswitch (key inner : String) {value : Json} (hvalue : value.Writable limit object) :
      (n.switchClause key [(inner, value)]).Writable limit object := by
    have hbody := Json.writable_single inner hvalue
    exact Node.Writable.shifted (n := { n with fragment := _, slot := key })
      (Json.writable_single key hbody) _
  cases m with
  | field =>
    simp only [run]
    split
    · exact hn.value _
    · exact hn.renameClause _
  | direction word => exact hn.writeOption _ _ rfl
  | geoDistance =>
    simp only [run]
    split
    · exact hn.readThrough _
    · split
      · next hsatisfies =>
        have hpoint : args.first.ShowsWritable limit object := hshow.first []
        exact hswitch _ _ (hpoint.satisfying hsatisfies hn)
      · exact hn.refused _
  | script =>
    have hvalue := Arguments.first_writable hvalues [] n
    simp only [run]
    split
    · exact hn.readThrough _
    · split
      · exact hn.writeOption _ _ hvalue
      · exact hswitch _ _ hvalue

end SortMethod

namespace BodyMethod

/-- The arguments that a method of a request body stores as they are given. -/
def values (args : Arguments) : BodyMethod → List Argument
  | sort | suggest => []
  | source | indexBoost => args.all

theorem clause_writable {n : Node} (hn : n.Writable limit object) {v : Argument}
    (hv : v.ShowsWritable limit object) {clause : Json} (h : clause? n v = some clause) :
    clause.Writable limit object := by
  unfold clause? at h
  split at h
  · cases h
    rfl
  · split at h
    · next hsatisfies =>
      cases h
      exact hv.satisfying hsatisfies hn
    · cases h

theorem clauses_writable {n : Node} (hn : n.Writable limit object) {items : List Argument}
    (hitems : ∀ item ∈ items, item.ShowsWritable limit object) {clauses : List Json}
    (h : items.mapM (clause? n) = some clauses) : (Json.arr clauses).Writable limit object := by
  induction items generalizing clauses with
  | nil =>
    cases h
    exact Json.writable_arr.2 (List.forall_mem_nil _)
  | cons item rest ih =>
    obtain ⟨hitem, hrest⟩ := List.forall_mem_cons.1 hitems
    rw [List.mapM_cons] at h
    obtain ⟨clause, hclause, h⟩ := Option.bind_eq_some_iff.1 h
    obtain ⟨later, hlater, h⟩ := Option.bind_eq_some_iff.1 h
    cases h
    have hclauses := Json.writable_arr.1 (ih hrest hlater)
    exact Json.writable_arr.2 (List.forall_mem_cons.2 ⟨clause_writable hn hitem hclause, hclauses⟩)

/-- Patterns are texts, which can be written. -/
theorem patterns_writable {v : Argument} {what : String} {j : Json} (h : patterns v what = .ok j) :
    j.Writable limit object := by
  unfold patterns at h
  split at h
  · cases h
    rfl
  · cases h
    exact Json.writable_ofStrings _
  · cases h

theorem sourcePatterns_writable {includes excludes : Argument} {j : Json}
    (h : sourcePatterns includes excludes = .ok j) : j.Writable limit object := by
  unfold sourcePatterns at h
  cases hincluded : patterns includes "includes" with
  | error cause =>
    rw [hincluded] at h
    cases h
  | ok included =>
    have hincludes : included.Writable limit object := patterns_writable hincluded
    simp only [hincluded, bind, Except.bind] at h
    split at h
    · cases h
      exact Json.writable_single _ hincludes
    · cases hexcluded : patterns excludes "excludes" with
      | error cause =>
        rw [hexcluded] at h
        cases h
      | ok excluded =>
        rw [hexcluded] at h
        cases h
        exact Json.writable_cons _ hincludes (Json.writable_single _ (patterns_writable hexcluded))

/-- What a request is sorted by can be written. -/
theorem sort_writable {n : Node} (hn : n.Writable limit object) {args : Arguments}
    (hshow : args.Show (·.fragment.Writable limit object)) :
    (sort.run n args).Writable limit object := by
  have hv : (args.first ["order"]).ShowsWritable limit object := hshow.first _
  simp only [run]
  split
  · exact hn.readOption _ _
  · split
    · have hordered (field word : String) :
          (Json.obj [(field, .obj [("order", .str word)])]).Writable limit object := rfl
      simp only [sortBy]
      (repeat' split) <;>
        first
        | exact hn.refused _
        | exact hn.noticed _
        | exact hn.appendItem _ _ fun _ _ => hordered _ _
    · split
      · next items hitems =>
        split
        · next clauses hclauses =>
          have hshown : ∀ item ∈ items, item.ShowsWritable limit object :=
            Argument.items_show hv hitems
          exact hn.writeOption _ _ (clauses_writable hn hshown hclauses)
        · exact hn.refused _
      · split
        · next clause hclause => exact hn.appendItem _ _ fun _ _ => clause_writable hn hv hclause
        · exact hn.refused _

theorem run_writable {n : Node} (hn : n.Writable limit object) {args : Arguments}
    (hshow : args.Show (·.fragment.Writable limit object)) (m : BodyMethod)
    (hvalues : AllWritable limit object (m.values args)) :
    (m.run n args).Writable limit object := by
  cases m with
  | sort => exact sort_writable hn hshow
  | source =>
    simp only [run]
    split
    · exact hn.readOption _ _
    · split
      · exact hn.writeOption _ _ rfl
      · exact hn.refused _
      · split
        · next value hvalue => exact hn.writeOption _ _ (sourcePatterns_writable hvalue)
        · exact hn.refused _
  | suggest =>
    simp only [run]
    split
    · exact hn.mergeSection _ _ fun _ _ => rfl
    · exact Accessor.run_writable hn _ (hshow.first []) hvalues
  | indexBoost =>
    have hboost := Arguments.get_writable hvalues 1 "boost"
    simp only [run]
    split
    · exact hn.readOption _ _
    · split
      · exact hn.readThrough _
      · exact hn.mergeSection _ _ fun m _ => Json.writable_single _ (hboost m)

end BodyMethod

/-! ## Operations -/

/-- The arguments of a call, without those that are certainly not stored as they are given. -/
def Operation.values (args : Arguments) : Operation → List Argument
  | accessor a => a.values args.first
  | geo m => m.values args
  | sort m => m.values args
  | body m => m.values args
  | inspect _ | decay _ => []
  | field _ | bucket _ | highlight _ | suggestion _ => args.all

/-- Whether an operation looks at the node as a whole. -/
def Operation.inspects : Operation → Bool
  | inspect _ => true
  | _ => false

/-- A call keeps a document that can be written, if what it stores can be. -/
theorem Operation.run_writable {n : Node} (hn : n.Writable limit object) {args : Arguments}
    (hshow : args.Show (·.fragment.Writable limit object)) {op : Operation}
    (hop : op.inspects = false) (hvalues : AllWritable limit object (op.values args)) :
    (op.run n args).Writable limit object := by
  cases op with
  | accessor a => exact Accessor.run_writable hn a (hshow.first []) hvalues
  | field m => exact FieldMethod.run_writable hn m hvalues
  | geo m => exact m.run_writable hn hshow hvalues
  | decay m => exact DecayMethod.run_writable hn m
  | bucket m => exact BucketMethod.run_writable hn m hvalues
  | highlight m => exact HighlightMethod.run_writable hn m hvalues
  | sort m => exact m.run_writable hn hshow hvalues
  | suggestion m => exact SuggestionMethod.run_writable hn m hvalues
  | body m => exact m.run_writable hn hshow hvalues
  | inspect i => cases hop

/-! ## Answers without texts -/

/-- Without a limit, and with objects shown, every node can be written. -/
theorem Node.writable_free (n : Node) : n.Writable none none := Json.writable_free n.fragment

theorem Argument.shows_free (a : Argument) : a.ShowsWritable none none :=
  a.shows_of_forall fun child => Json.writable_free child.fragment

/-- An operation that does not look at the node as a whole answers no text. -/
theorem Operation.run_silent {op : Operation} (hop : op.inspects = false) (n : Node)
    (args : Arguments) (w : Writing) : (op.run n args).answer ≠ .ok (.text w) := by
  have hshow : args.Show (·.fragment.Writable none none) :=
    ⟨fun a _ => a.shows_free, fun entry _ => entry.2.shows_free⟩
  exact (run_writable n.writable_free hshow hop fun _ _ _ => Json.writable_free _).silent w

end SearchBuilder
