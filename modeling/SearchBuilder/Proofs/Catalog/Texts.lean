import SearchBuilder.Catalog
import SearchBuilder.Proofs.Document.Texts

/-!
# What the catalog can write

A new node can be written if the values can that it is built with (`Kind.build_writable`), and a
call keeps a node writable if the values can be written that the method stores as they are given
(`Node.Writable.call`). Slots for other nodes store none.
-/

namespace SearchBuilder

variable {limit : DigitLimit} {object : Option TextFault}

/-! ## Methods -/

/-- The arguments of a call by a method's name, without those that are certainly not stored as they
are given. -/
def Kind.valuesOf (k : Kind) (method : String) (args : Arguments) : List Argument :=
  match Entries.get? k.methods method with
  | some op => op.values args
  | none => args.all

namespace Node

variable {n : Node} (hn : n.Writable limit object) {args : Arguments}
  (hshow : args.Show (·.fragment.Writable limit object))
include hn hshow

/-- A call keeps a node that can be written, if what it stores can be. -/
theorem Writable.call {method : String}
    (hvalues : AllWritable limit object (n.kind.valuesOf method args)) :
    (n.call method args).state.Writable limit object := by
  unfold Node.call
  unfold Kind.valuesOf at hvalues
  split
  · next op hop =>
    rw [hop] at hvalues
    cases hinspects : op.inspects with
    | false => exact (Operation.run_writable hn hshow hinspects hvalues).state
    | true =>
      cases op with
      | inspect i =>
        cases i with
        | fragment => exact (hn.readPart []).state
        | _ => exact hn
      | _ => cases hinspects
  · exact hn

end Node

/-- Only a look at a node answers a text, and the text is about the node. -/
theorem Node.call_text {n : Node} {method : String} {args : Arguments} {w : Writing}
    (h : (n.call method args).answer = .ok (.text w)) :
    (n.call method args).state = n ∧ w.documents = [n.fragment] ∧ w.shown = [] := by
  unfold Node.call at h ⊢
  split at h
  · next op _ =>
    cases hinspects : op.inspects with
    | false => exact absurd h (Operation.run_silent hinspects n args w)
    | true =>
      cases op with
      | inspect i =>
        cases i with
        | tag => cases h
        | fragment => exact absurd h ((n.writable_free.readPart []).silent w)
        | text | shown =>
          cases h
          exact ⟨rfl, rfl, rfl⟩
      | _ => cases hinspects
  · cases h

/-! ## Construction -/

namespace Kind

/-- The arguments of a construction, without those that are certainly not stored as they are given.
-/
def values (k : Kind) (args : Arguments) : List Argument :=
  match k with
  | query .filtered | query .spanNear | query .spanOr | query .spanNot => []
  | query .spanFirst => [args.get 1 "end"]
  | filter .query | filter .and | filter .or | filter .not => []
  | rescore => (args.get 0 "window_size").unlessNode
  | _ => args.all

end Kind

namespace Node

theorem writable_envelope (kind : Kind) (slot : String) {body : Entries Json}
    (hbody : (Json.obj body).Writable limit object) :
    (envelope kind slot body).Writable limit object :=
  Json.writable_single slot hbody

theorem writable_nestedEnvelope (kind : Kind) (slot inner : String) {options : Entries Json}
    (hoptions : (Json.obj options).Writable limit object) :
    (nestedEnvelope kind slot inner options).Writable limit object :=
  writable_envelope kind slot (Json.writable_single inner hoptions)

end Node

/-- A slot that is filled while a node is built. -/
theorem Operation.slot_writable {n : Node} (hn : n.Writable limit object) {a : Accessor}
    {v : Argument} (hv : v.ShowsWritable limit object)
    (hvalues : AllWritable limit object (a.values v)) :
    ((Operation.accessor a).run n (.one v)).Writable limit object :=
  Accessor.run_writable hn a hv hvalues

theorem Operation.slots_writable {n : Node} (hn : n.Writable limit object) {a a' : Accessor}
    {v v' : Argument} (hv : v.ShowsWritable limit object) (hv' : v'.ShowsWritable limit object)
    (hvalues : AllWritable limit object (a.values v))
    (hvalues' : AllWritable limit object (a'.values v')) :
    (((Operation.accessor a).run n (.one v)).andThen fun m =>
      (Operation.accessor a').run m (.one v')).Writable limit object :=
  (slot_writable hn hv hvalues).andThen fun _ hm => slot_writable hm hv' hvalues'

section Build

variable {args : Arguments} (hshow : args.Show (·.fragment.Writable limit object))
include hshow

theorem QueryKind.build_writable (k : QueryKind)
    (hvalues : AllWritable limit object ((Kind.query k).values args)) :
    (k.build args).Writable limit object := by
  have hnode {body : Entries Json} (hbody : (Json.obj body).Writable limit object) :
      (k.node body).Writable limit object := Node.writable_envelope _ _ hbody
  have hempty : (k.node []).Writable limit object := hnode Json.writable_empty
  have hfield {k : QueryKind} (field key : String) {value : Json}
      (hvalue : value.Writable limit object) :
      (Outcome.chained (k.fieldNode field [(key, value)])).Writable limit object :=
    (Node.writable_nestedEnvelope (.query k) _ _ (Json.writable_single key hvalue)).chained
  have hshows (index : Nat) (name : String) : (args.get index name).ShowsWritable limit object :=
    hshow.get index name
  have hnothing : AllWritable limit object [] := List.forall_mem_nil _
  cases k with
  | generic => exact (Node.writable_envelope _ _ Json.writable_empty).chained
  | matchAll | bool | disMax | constantScore | functionScore => exact hempty.chained
  | term | spanTerm | wordStart | wildcard | text =>
    exact hfield _ _ (Arguments.get_writable hvalues _ _ _)
  | range => exact (Node.writable_nestedEnvelope _ _ _ Json.writable_empty).chained
  | terms =>
    have hitems := (Arguments.get_writable hvalues 1 "terms").termsOf (QueryKind.terms.node [])
    have hterms := hnode (Json.writable_single (args.first ["terms"]).name hitems)
    exact Node.Writable.chained (n := { QueryKind.terms.node _ with inner := _ }) hterms
  | multiField =>
    simp only [build]
    split
    · next names _ =>
      have hnames : (Json.obj [("fields", .ofStrings names)]).Writable limit object :=
        Json.writable_single "fields" (Json.writable_ofStrings names)
      exact (hnode (Json.writable_cons _ (Arguments.get_writable hvalues 1 _ _) hnames)).chained
    · exact hempty.refused _
  | ids =>
    simp only [build]
    split
    · exact (hnode (Json.writable_single _ (Json.writable_ofStrings _))).chained
    · exact hempty.refused _
  | queryString | nested =>
    exact (hnode (Json.writable_single _ (Arguments.first_writable hvalues _ _))).chained
  | spanNear | spanOr =>
    have hclauses := hnode (Json.writable_single "clauses" (Json.writable_ofStrings []))
    exact Operation.slot_writable hclauses (hshow.first []) hnothing
  | filtered | spanNot =>
    exact Operation.slots_writable hempty (hshows 0 _) (hshows 1 _) hnothing hnothing
  | spanFirst =>
    exact Operation.slots_writable hempty (hshows 0 _) (hshows 1 _) hnothing hvalues

theorem FilterKind.build_writable (k : FilterKind)
    (hvalues : AllWritable limit object ((Kind.filter k).values args)) :
    (k.build args).Writable limit object := by
  have hnode {body : Entries Json} (hbody : (Json.obj body).Writable limit object)
      (inner : String) : ({ k.node body with inner } : Node).Writable limit object :=
    Node.writable_envelope (.filter k) _ hbody
  have hempty := hnode Json.writable_empty ""
  have hnothing : AllWritable limit object [] := List.forall_mem_nil _
  cases k with
  | generic => exact (Node.writable_envelope _ _ Json.writable_empty).chained
  | matchAll | bool => exact hempty.chained
  | term | wordStart =>
    exact (hnode (Json.writable_single _ (Arguments.get_writable hvalues 1 _ _)) _).chained
  | terms =>
    have hitems := (Arguments.get_writable hvalues 1 "terms").termsOf (FilterKind.terms.node [])
    exact (hnode (Json.writable_single _ hitems) _).chained
  | range | geoBox => exact (Node.writable_nestedEnvelope _ _ _ Json.writable_empty).chained
  | «exists» | missing | type =>
    exact (hnode (Json.writable_single _ (Arguments.first_writable hvalues _ _)) "").chained
  | ids =>
    simp only [build]
    split
    · exact (hnode (Json.writable_single _ (Json.writable_ofStrings _)) "").chained
    · exact hempty.refused _
  | query | not => exact Operation.slot_writable hempty (hshow.first []) hnothing
  | and | or =>
    have hparts := hnode (Json.writable_single "filters" (Json.writable_ofStrings [])) ""
    exact Operation.slot_writable hparts (hshow.first []) hnothing
  | geoDistance => exact (hnode Json.writable_empty _).chained

theorem ScoreKind.build_writable (k : ScoreKind)
    (hvalues : AllWritable limit object ((Kind.score k).values args)) :
    (k.build args).Writable limit object := by
  have hfirst := Arguments.first_writable hvalues []
  have hempty : (k.bareNode []).Writable limit object := Json.writable_empty
  cases k with
  | generic =>
    simp only [build]
    split
    · exact hempty.chained
    · exact (Node.writable_envelope _ _ Json.writable_empty).chained
  | bare => exact hempty.chained
  | boostFactor =>
    exact Node.Writable.chained (n := ScoreKind.bareNode _ _) (Json.writable_single _ (hfirst _))
  | script =>
    exact Operation.slot_writable (Node.writable_envelope _ _ Json.writable_empty) (hshow.first [])
      (List.forall_mem_singleton.2 hfirst)
  | random => exact (Node.writable_envelope _ _ Json.writable_empty).chained
  | fieldValue => exact (Node.writable_envelope _ _ (Json.writable_single _ (hfirst _))).chained
  | decay => exact (Node.writable_nestedEnvelope _ _ _ Json.writable_empty).chained

omit hshow in
theorem AggregationKind.build_writable (k : AggregationKind) (args : Arguments) :
    (k.build args).Writable limit object := by
  cases k with
  | generic | filter => exact (Node.writable_envelope _ _ Json.writable_empty).chained
  | _ => exact (Node.writable_nestedEnvelope _ _ _ Json.writable_empty).chained

omit hshow in
theorem FacetKind.build_writable (k : FacetKind) (args : Arguments) :
    (k.build args).Writable limit object := by
  unfold build
  dsimp only
  split
  · exact (Node.writable_nestedEnvelope _ _ _ Json.writable_empty).chained
  · exact (Node.writable_envelope _ _ Json.writable_empty).chained

omit hshow in
theorem SuggesterKind.build_writable (k : SuggesterKind) (args : Arguments) :
    (k.build args).Writable limit object := by
  cases k with
  | generic => exact (Node.writable_envelope _ _ Json.writable_empty).chained
  | _ => exact (Node.writable_nestedEnvelope _ _ _ Json.writable_empty).chained

omit hshow in
theorem buildPoint_writable (hall : AllWritable limit object args.all) :
    (buildPoint args).Writable limit object := by
  refine Node.Writable.chained ?_
  dsimp only [Node.Writable]
  cases hpair : lonLat? { kind := .geoPoint, fragment := .arr [.int 0, .int 0] } args.first with
  | none => exact Json.writable_pair Json.writable_zero Json.writable_zero
  | some pair => exact GeoMethod.lonLat_writable (Arguments.first_writable hall []) hpair

/-- What is built can be written, if what it stores can be. -/
theorem Kind.build_writable (k : Kind) (hvalues : AllWritable limit object (k.values args)) :
    (k.build args).Writable limit object := by
  have hempty (k : Kind) : ({ kind := k, fragment := .empty } : Node).Writable limit object :=
    Json.writable_empty
  have hfragment {n : Node} {j : Json} (hj : j.Writable limit object) :
      ({ n with fragment := j } : Node).Writable limit object := hj
  cases k with
  | query k => exact k.build_writable hshow hvalues
  | filter k => exact k.build_writable hshow hvalues
  | score k => exact k.build_writable hshow hvalues
  | aggregation k => exact k.build_writable args
  | facet k => exact k.build_writable args
  | suggester k => exact k.build_writable args
  | generator | request => exact (hempty _).chained
  | geoPoint => exact buildPoint_writable hvalues
  | shape =>
    have htyped := Operation.slot_writable (a := .choice .root "type" Words.shapeTypes .lower)
      (hempty .shape) (hshow.first ["coordinates"]) (List.forall_mem_nil _)
    exact htyped.andThen fun m hm => hm.writeOption _ _ (Arguments.get_writable hvalues _ _ m)
  | indexedShape =>
    let empty : Node := { kind := .indexedShape, fragment := .empty }
    have hid := Json.writable_single "id" (Arguments.get_writable hvalues 1 "doc_id" empty)
    have htype := Arguments.first_writable hvalues ["doc_id"] empty
    have hboth := Json.writable_cons "type" htype hid
    exact Node.Writable.chained (hfragment hboth)
  | highlight =>
    refine HighlightMethod.run_writable (hempty _) .fields fun a ha => ?_
    rw [List.mem_singleton.1 ha]
    exact Arguments.first_writable hvalues []
  | sort =>
    have hclause (field : String) :
        ({ Node.envelope .sort field [] with inner := field } : Node).Writable limit object :=
      Node.writable_envelope .sort field Json.writable_empty
    exact (hclause _).chained
  | scriptField => exact (Node.writable_envelope _ _ Json.writable_empty).chained
  | rescore =>
    exact Operation.slots_writable (Node.writable_envelope .rescore "query" Json.writable_empty)
      (hshow.get 0 "window_size") (hshow.get 1 "query") hvalues (List.forall_mem_nil _)
  | plain => exact Node.Writable.chained (hfragment (Arguments.first_writable hvalues [] _))

end Build

end SearchBuilder
