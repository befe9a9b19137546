import SearchBuilder.Proofs.Document.Locality

/-!
# What a geo point stores

A geo point is read from an object, a text, a geohash or a pair, and what cannot be read leaves it
as it was. So its fragment is that of the last input that could be read (`Node.point_stores`).

A bounding box keeps its corners as pairs with the longitude first, as a geo point keeps a pair; a
distance keeps its origin as an object, as a geo point keeps one. Either filter may be given a
latitude and a longitude instead of the point that stands for them, whatever it holds so far.
-/

namespace SearchBuilder

namespace Node

/-! ## Inputs -/

/-- The point that the members of an object describe: by `lat` and `lon` if both are there, else by
`geohash`. -/
def describedBy? (members : Entries Json) : Option Json :=
  match Entries.get? members "lat", Entries.get? members "lon" with
  | some lat, some lon => some (.obj [("lat", lat), ("lon", lon)])
  | _, _ => (Entries.get? members "geohash").map fun hash => .obj [("geohash", hash)]

theorem describedPoint?_obj (members : Entries Json) :
    GeoMethod.describedPoint? (.plain (.obj members)) = describedBy? members := by
  simp only [GeoMethod.describedPoint?, describedBy?]
  cases Entries.get? members "lat" <;> cases Entries.get? members "lon" <;>
    cases Entries.get? members "geohash" <;> rfl

/-- What a geo point stores for a call, if the input of the call can be read as a point. -/
def pointInput? (n : Node) (call : String × Arguments) : Option Json :=
  if call.1 = "properties" then
    match call.2.first with
    | .plain (.obj members) => describedBy? members
    | _ => none
  else if call.1 = "string" then
    (call.2.first.text?.filter fun text => text.toList.contains ',').map .str
  else if call.1 = "geohash" then
    let precision := (call.2.get? 1 "precision").getD (.plain (.int 12))
    ((call.2.first ["precision"]).text?.filter fun hash =>
      GeoMethod.equalsLength precision hash.length).map .str
  else if call.1 = "array" then
    match call.2.first.items? with
    | some [lat, lon] => some (.arr [lon.toJson n, lat.toJson n])
    | _ => none
  else none

/-- What the calls of a run store in a geo point, in turn. -/
def pointInputs (n : Node) : List (String × Arguments) → List Json
  | [] => []
  | call :: rest => (n.pointInput? call).toList ++ (n.call call.1 call.2).state.pointInputs rest

/-- What a call does to a geo point for which it stores a value or none. -/
inductive StoresPoint (n : Node) (o : Outcome Node) : Option Json → Prop
  | stored (value : Json) : o = n.setPoint value → StoresPoint n o (some value)
  | kept : o.state = n → StoresPoint n o none

variable {n : Node}

theorem StoresPoint.fragment {o : Outcome Node} {value? : Option Json}
    (h : n.StoresPoint o value?) : o.state.fragment = value?.getD n.fragment := by
  cases h with
  | stored value ho => rw [ho]; rfl
  | kept ho => rw [ho]; rfl

/-! ## Calls -/

theorem storesPoint_properties (n : Node) (args : Arguments) :
    n.StoresPoint (GeoMethod.pointProperties.run n args) (n.pointInput? ("properties", args)) := by
  simp only [GeoMethod.run, pointInput?, if_true]
  cases args.first with
  | plain value =>
    cases value with
    | null => exact .kept (n.readPart_state [])
    | obj members =>
      simp only [Argument.isNull, Bool.false_eq_true, if_false, describedPoint?_obj]
      cases describedBy? members with
      | some value => exact .stored value rfl
      | none => exact .kept rfl
    | _ => exact .kept rfl
  | _ => exact .kept rfl

/-- A method that is given a text stores it as it is if the text passes its test. -/
theorem storesPoint_text (n : Node) (v : Argument) (passes : String → Bool) :
    n.StoresPoint
      (if v.isNull then n.readPart []
      else
        match v.text? with
        | some text => if passes text then n.setPoint (.str text) else .chained n
        | none => .chained n)
      ((v.text?.filter passes).map .str) := by
  cases hnull : v.isNull with
  | true =>
    obtain rfl := Argument.eq_null hnull
    exact .kept (n.readPart_state [])
  | false =>
    simp only [Bool.false_eq_true, if_false]
    cases v.text? with
    | none => exact .kept rfl
    | some text =>
      cases hpasses : passes text with
      | true =>
        simp only [Option.filter_some, hpasses, if_true]
        exact .stored _ rfl
      | false =>
        simp only [Option.filter_some, hpasses, Bool.false_eq_true, if_false]
        exact .kept rfl

theorem storesPoint_array (n : Node) (v : Argument) :
    n.StoresPoint
      (if v.isNull then n.readPart []
      else
        match lonLat? n v with
        | some pair => n.setPoint pair
        | none => .chained n)
      (lonLat? n v) := by
  cases hnull : v.isNull with
  | true =>
    obtain rfl := Argument.eq_null hnull
    exact .kept (n.readPart_state [])
  | false =>
    simp only [Bool.false_eq_true, if_false]
    cases lonLat? n v with
    | none => exact .kept rfl
    | some pair => exact .stored pair rfl

/-- The methods of a geo point are those by which it is given and looks at it. -/
theorem point_method_cases {method : String} {op : Operation}
    (hop : Entries.get? Kind.geoPoint.methods method = some op) :
    (method, op) ∈ pointMethods ∨ op.isInspection = true ∧ method ∉ pointMethods.map (·.1) := by
  have htable : ∀ entry ∈ Kind.geoPoint.methods,
      entry ∈ pointMethods ∨ entry.2.isInspection = true ∧ entry.1 ∉ pointMethods.map (·.1) := by
    decide
  exact htable _ (Entries.mem_of_get? hop)

theorem pointInput?_of_notMem {call : String × Arguments} (h : call.1 ∉ pointMethods.map (·.1)) :
    n.pointInput? call = none := by
  simp only [pointMethods, List.map_cons, List.map_nil, List.mem_cons, List.not_mem_nil, or_false,
    not_or] at h
  obtain ⟨hproperties, hstring, hgeohash, harray⟩ := h
  rw [pointInput?, if_neg hproperties, if_neg hstring, if_neg hgeohash, if_neg harray]

/-- A call on a geo point stores what its input is read as, or changes nothing. -/
theorem storesPoint_call (hkind : n.kind = .geoPoint) (call : String × Arguments) :
    n.StoresPoint (n.call call.1 call.2) (n.pointInput? call) := by
  obtain ⟨method, args⟩ := call
  simp only [Node.call, hkind]
  cases hop : Entries.get? Kind.geoPoint.methods method with
  | none =>
    have hnone : method ∉ pointMethods.map (·.1) := fun hmem =>
      Entries.get?_eq_none_iff.1 hop (by
        rw [Kind.methods, List.map_append]
        exact List.mem_append_left _ hmem)
    rw [pointInput?_of_notMem hnone]
    exact .kept rfl
  | some op =>
    rcases point_method_cases hop with hmem | ⟨hinspect, hnone⟩
    · simp only [pointMethods, List.mem_cons, Prod.mk.injEq, List.not_mem_nil, or_false] at hmem
      rcases hmem with ⟨rfl, rfl⟩ | ⟨rfl, rfl⟩ | ⟨rfl, rfl⟩ | ⟨rfl, rfl⟩
      · exact n.storesPoint_properties args
      · exact n.storesPoint_text args.first _
      · exact n.storesPoint_text (args.first ["precision"]) _
      · exact n.storesPoint_array args.first
    · rw [pointInput?_of_notMem hnone]
      cases op with
      | inspect i => exact .kept (i.run_state n)
      | _ => cases hinspect

/-! ## Runs -/

theorem getLast?_toList_append {α : Type} (first : Option α) (later : List α) (start : α) :
    (first.toList ++ later).getLast?.getD start = later.getLast?.getD (first.getD start) := by
  cases first with
  | none => rfl
  | some value => simp [List.getLast?_cons]

/-- The fragment of a geo point is what the last call stored that stored anything. -/
theorem after_fragment (hkind : n.kind = .geoPoint) (calls : List (String × Arguments)) :
    (n.after calls).fragment = (n.pointInputs calls).getLast?.getD n.fragment := by
  induction calls generalizing n with
  | nil => rfl
  | cons call rest ih =>
    have hstep := (storesPoint_call hkind call).fragment
    have hrest : (n.call call.1 call.2).state.kind = .geoPoint :=
      (n.call_kind call.1 call.2).trans hkind
    rw [after_cons, ih hrest, pointInputs, getLast?_toList_append, hstep]

/-- The point at zero, which a geo point is unless it is given another. -/
def pointAtZero : Node := { kind := .geoPoint, fragment := .arr [.int 0, .int 0] }

/-- To build a geo point is to give the point at zero its first input, as a pair. -/
theorem build_point (args : Arguments) :
    (Kind.geoPoint.build args).state.kind = .geoPoint ∧
      (Kind.geoPoint.build args).state.fragment =
        (pointAtZero.pointInput? ("array", .one args.first)).getD pointAtZero.fragment :=
  ⟨rfl, rfl⟩

/-- A geo point shows the last input that could be read as one: of the calls, or else of its
construction, or else the point at zero. A call stores its input, or changes nothing if that cannot
be read. -/
theorem point_stores (args : Arguments) (calls : List (String × Arguments)) :
    let start := (Kind.geoPoint.build args).state
    let n := start.after calls
    let first := pointAtZero.pointInput? ("array", .one args.first)
    n.fragment = (first.toList ++ start.pointInputs calls).getLast?.getD pointAtZero.fragment ∧
      ∀ call, n.StoresPoint (n.call call.1 call.2) (n.pointInput? call) := by
  intro start n first
  obtain ⟨hkind, hstart⟩ := build_point args
  refine ⟨?_, fun call => storesPoint_call ((start.after_kind calls).trans hkind) call⟩
  rw [getLast?_toList_append, ← hstart]
  exact after_fragment hkind calls

/-! ## Places in filters -/

/-- The geo point of a pair. -/
def pairPoint (lat lon : Json) : Node :=
  (Kind.geoPoint.build (.one (.plain (.arr [lat, lon])))).state

/-- The geo point of an object. -/
def objectPoint (lat lon : Json) : Node :=
  ((Kind.geoPoint.build {}).state.call "properties"
    (.one (.plain (.obj [("lat", lat), ("lon", lon)])))).state

theorem pointValue_latLon (n : Node) (lat : Json) {lon : Json} (hlon : lon ≠ .null)
    (form : Json → Json → Json) :
    GeoMethod.pointValue n (.plain lat) (.plain lon) form = .ok (form lat lon) := by
  have hgiven : (Argument.plain lon).isNull = false := Argument.isNull_plain hlon
  rw [GeoMethod.pointValue, hgiven]
  rfl

theorem pointValue_point (n : Node) {child : Child} (hpoint : child.category = some .geoPoint)
    (lon : Argument) (form : Json → Json → Json) :
    GeoMethod.pointValue n (.node child) lon form = .ok child.fragment := by
  have hsatisfies : (Argument.node child).satisfies n (.category .geoPoint) = true :=
    decide_eq_true hpoint
  rw [GeoMethod.pointValue, if_pos hsatisfies]
  rfl

theorem run_corner {args : Arguments} {key : String} {value : Json}
    (hgiven : (args.first ["lon"]).isNull = false)
    (hvalue : GeoMethod.pointValue n (args.first ["lon"]) (args.get 1 "lon")
      (fun lat lon => .arr [lon, lat]) = .ok value) :
    (GeoMethod.corner key).run n args = n.writeOption .inner key value := by
  simp only [GeoMethod.run, hgiven, hvalue, Bool.false_eq_true, if_false]

theorem run_distancePoint {args : Arguments} {value : Json}
    (hgiven : (args.first ["lon"]).isNull = false)
    (hvalue : GeoMethod.pointValue n (args.first ["lon"]) (args.get 1 "lon")
      (fun lat lon => .obj [("lat", lat), ("lon", lon)]) = .ok value) :
    GeoMethod.distancePoint.run n args = n.writeOption .body n.inner value := by
  simp only [GeoMethod.run, hgiven, hvalue, Bool.false_eq_true, if_false]

section Places

variable {lat lon : Json} (hlat : lat ≠ .null) (hlon : lon ≠ .null)
include hlat hlon

/-- A corner is the same whether it is given by numbers or by the geo point of their pair. -/
theorem corner_latLon (n : Node) (key : String) :
    (GeoMethod.corner key).run n { positional := [.plain lat, .plain lon] } =
      (GeoMethod.corner key).run n (.one (.node (pairPoint lat lon).toChild)) := by
  calc (GeoMethod.corner key).run n { positional := [.plain lat, .plain lon] }
      = n.writeOption .inner key (.arr [lon, lat]) :=
        run_corner (Argument.isNull_plain hlat) (pointValue_latLon n lat hlon _)
    _ = (GeoMethod.corner key).run n (.one (.node (pairPoint lat lon).toChild)) :=
        (run_corner rfl (pointValue_point n rfl _ _)).symm

/-- An origin is the same whether it is given by numbers or by the geo point of their object. -/
theorem distancePoint_latLon (n : Node) :
    GeoMethod.distancePoint.run n { positional := [.plain lat, .plain lon] } =
      GeoMethod.distancePoint.run n (.one (.node (objectPoint lat lon).toChild)) := by
  calc GeoMethod.distancePoint.run n { positional := [.plain lat, .plain lon] }
      = n.writeOption .body n.inner (.obj [("lat", lat), ("lon", lon)]) :=
        run_distancePoint (Argument.isNull_plain hlat) (pointValue_latLon n lat hlon _)
    _ = GeoMethod.distancePoint.run n (.one (.node (objectPoint lat lon).toChild)) :=
        (run_distancePoint rfl (pointValue_point n rfl _ _)).symm

end Places

end Node

end SearchBuilder
