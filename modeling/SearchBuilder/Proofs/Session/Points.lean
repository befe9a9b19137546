import SearchBuilder.Proofs.Document.Points
import SearchBuilder.Proofs.Session.Events
import SearchBuilder.Proofs.Session.Lists

/-!
# Points in a session

A filter may be given a latitude and a longitude, a geo point that is built on the spot or the name
of one: the step is the same (`Session.points_agree`). The filter keeps what it took from a point,
so no later step that is not about the filter itself changes it.
-/

namespace SearchBuilder

/-- The name that a step binds, or whose object or client it calls. -/
def Step.name? : Step → Option String
  | .build _ name _ | .call name _ _ _ | .bindStub name _ | .bindPoster name _ | .bindBare name
  | .bindHttp name _ _ => some name
  | .register _ | .current | .clear => none

namespace Session

variable {s : Session} {name : String}

/-! ## Names that a step is not about -/

theorem bind_other {subject : String} (h : subject ≠ name) (b : Binding) :
    Entries.get? (s.bind subject b).bindings name = Entries.get? s.bindings name :=
  Entries.get?_set_of_ne _ h b

theorem addClient_other {subject : String} (h : subject ≠ name) (client : Client) :
    Entries.get? (s.addClient subject client).bindings name = Entries.get? s.bindings name :=
  Entries.get?_set_of_ne _ h _

theorem call_other {subject : String} (h : subject ≠ name) (method : String) (operands : Operands)
    (handlers : Handlers) :
    Entries.get? (s.call subject method operands handlers).session.bindings name =
      Entries.get? s.bindings name := by
  have hobject (o : Object) :
      Entries.get? (s.callObject subject o method operands).session.bindings name =
        Entries.get? s.bindings name := by
    unfold callObject
    split
    · rfl
    · exact bind_other h _
  unfold call
  split
  · rfl
  · split
    · exact congrArg (Entries.get? · name) (s.search_bindings _ _ handlers)
    · exact hobject _
  · exact hobject _
  · split <;> rfl

/-- A step leaves the binding of every name that it is not about. -/
theorem step_other (s : Session) {step : Step} (h : step.name? ≠ some name) :
    Entries.get? (s.step step).session.bindings name = Entries.get? s.bindings name := by
  cases step with
  | build kind subject operands =>
    have hother : subject ≠ name := fun heq => h (congrArg some heq)
    simp only [Session.step]
    split
    · rfl
    · split
      · rfl
      · exact bind_other hother _
  | call subject method operands handlers =>
    exact call_other (fun heq => h (congrArg some heq)) method operands handlers
  | bindStub subject response => exact addClient_other (fun heq => h (congrArg some heq)) _
  | bindPoster subject client => exact addClient_other (fun heq => h (congrArg some heq)) _
  | bindBare subject => exact addClient_other (fun heq => h (congrArg some heq)) _
  | bindHttp subject operands replies =>
    simp only [Session.step]
    split
    · rfl
    · simp only [Session.bindHttp]
      split
      · exact addClient_other (fun heq => h (congrArg some heq)) _
      · rfl
  | register subject =>
    simp only [Session.step, Session.register]
    split <;> rfl
  | current => rfl
  | clear => rfl

/-- Steps leave the binding of every name that none of them is about. -/
theorem after_other (s : Session) {steps : List Step} (h : ∀ step ∈ steps, step.name? ≠ some name) :
    Entries.get? (s.after steps).bindings name = Entries.get? s.bindings name := by
  induction steps generalizing s with
  | nil => rfl
  | cons first rest ih =>
    obtain ⟨hfirst, hrest⟩ := List.forall_mem_cons.1 h
    exact (ih (s.step first).session hrest).trans (s.step_other hfirst)

/-! ## Places -/

/-- Calls on an object that do the same to it are the same steps. -/
theorem callObject_congr {o : Object} {method : String} {operands others : Operands}
    {args given : Arguments}
    (hargs : Operand.evalAll s.scope (some name) operands = (.ok args, []))
    (hgiven : Operand.evalAll s.scope (some name) others = (.ok given, []))
    (hcall : o.call method args = o.call method given) :
    s.callObject name o method operands = s.callObject name o method others := by
  simp only [callObject, hargs, hgiven, hcall]

theorem evalAll_point {operand : Operand} {child : Child}
    (h : operand.eval s.scope (some name) = (.ok (.node child), [])) :
    Operand.evalAll s.scope (some name) { positional := [operand] } =
      (.ok (.one (.node child)), []) := by
  simp only [Operand.evalAll, Operand.evalList, Operand.evalNamed, h]
  rfl

end Session

/-- A method of a filter that takes a place: a latitude and a longitude, or the geo point that
stands for them. -/
structure PlaceMethod where
  kind : FilterKind
  method : String
  /-- The geo point of a latitude and a longitude. -/
  point : Json → Json → Node
  /-- The same point, built on the spot. -/
  operand : Json → Json → Operand

namespace PlaceMethod

/-- A corner of a bounding box. -/
def corner (method : String) : PlaceMethod where
  kind := .geoBox
  method := method
  point := Node.pairPoint
  operand lat lon := .fresh .geoPoint [.plain (.arr [lat, lon])] [] []

/-- The origin of a distance. -/
def origin : PlaceMethod where
  kind := .geoDistance
  method := "point"
  point := Node.objectPoint
  operand lat lon :=
    .fresh .geoPoint [] [] [("properties", [.plain (.obj [("lat", lat), ("lon", lon)])])]

/-- The methods of filters that take a place. -/
def all : List PlaceMethod := [corner "top_left", corner "bottom_right", origin]

/-- Two values that are not null are stored as a point. -/
theorem call_latLon {m : PlaceMethod} (hm : m ∈ all) {n : Node} (hkind : n.kind = .filter m.kind)
    {lat lon : Json} (hlat : lat ≠ .null) (hlon : lon ≠ .null) :
    n.call m.method { positional := [.plain lat, .plain lon] } =
      n.call m.method (.one (.node (m.point lat lon).toChild)) := by
  simp only [all, List.mem_cons, List.not_mem_nil, or_false] at hm
  simp only [Node.call, hkind]
  rcases hm with rfl | rfl | rfl
  · exact Node.corner_latLon hlat hlon n "top_left"
  · exact Node.corner_latLon hlat hlon n "bottom_right"
  · exact Node.distancePoint_latLon hlat hlon n

theorem point_kind {m : PlaceMethod} (hm : m ∈ all) (lat lon : Json) :
    (m.point lat lon).kind = .geoPoint := by
  simp only [all, List.mem_cons, List.not_mem_nil, or_false] at hm
  rcases hm with rfl | rfl | rfl <;> rfl

theorem eval_operand {m : PlaceMethod} (hm : m ∈ all) (scope : Scope) (receiver : Option String)
    (lat lon : Json) :
    (m.operand lat lon).eval scope receiver = (.ok (.node (m.point lat lon).toChild), []) := by
  simp only [all, List.mem_cons, List.not_mem_nil, or_false] at hm
  rcases hm with rfl | rfl | rfl <;> rfl

end PlaceMethod

namespace Session

/-- Coordinates are taken in one order everywhere.

A geo point shows the last input that could be read as one, and nothing else changes it. A filter
that is given a latitude and a longitude takes the same step as with the geo point that stands for
them, whether that is built on the spot or has a name. No later step that is not about the filter
changes it, so no change of the point does. -/
theorem points_agree :
    (∀ (args : Arguments) (calls : List (String × Arguments)),
        let start := (Kind.geoPoint.build args).state
        let n := start.after calls
        let first := Node.pointAtZero.pointInput? ("array", .one args.first)
        n.fragment =
            (first.toList ++ start.pointInputs calls).getLast?.getD Node.pointAtZero.fragment ∧
          ∀ call, n.StoresPoint (n.call call.1 call.2) (n.pointInput? call)) ∧
      ∀ m ∈ PlaceMethod.all, ∀ (s : Session) (name : String) (n : Node) (handlers : Handlers),
        Entries.get? s.bindings name = some (.object (.node n)) → n.kind = .filter m.kind →
        let give (operands : List Operand) :=
          s.step (.call name m.method { positional := operands } handlers)
        (∀ lat lon, lat ≠ .null → lon ≠ .null →
          give [m.operand lat lon] = give [.plain lat, .plain lon] ∧
            ∀ point, Entries.get? s.bindings point = some (.object (.node (m.point lat lon))) →
              give [.ref point] = give [.plain lat, .plain lon]) ∧
          ∀ operands later, (∀ step ∈ later, step.name? ≠ some name) →
            Entries.get? ((give operands).session.after later).bindings name =
              Entries.get? (give operands).session.bindings name := by
  refine ⟨Node.point_stores, ?_⟩
  intro m hm s name n handlers hn hkind give
  refine ⟨fun lat lon hlat hlon => ?_, fun operands later hlater => after_other _ hlater⟩
  -- Whichever operand stands for the point, the filter is called with the point.
  have hgive (operand : Operand)
      (heval : operand.eval s.scope (some name) = (.ok (.node (m.point lat lon).toChild), [])) :
      give [operand] = give [.plain lat, .plain lon] := by
    simp only [give, step_node hn]
    refine callObject_congr (evalAll_point heval) rfl ?_
    exact congrArg (Outcome.map Object.node) (PlaceMethod.call_latLon hm hkind hlat hlon).symm
  refine ⟨hgive _ (PlaceMethod.eval_operand hm _ _ lat lon), fun point hpoint => hgive _ ?_⟩
  have hother : name ≠ point := by
    rintro rfl
    rw [hn, Option.some.injEq, Binding.object.injEq, Object.node.injEq] at hpoint
    rw [hpoint, PlaceMethod.point_kind hm] at hkind
    cases hkind
  simp only [Operand.eval, scope, look, hpoint, Option.map_some, Option.some.injEq, if_neg hother]
  rfl

/-- A corner that is given by the name of a point, which then becomes another one. -/
theorem points_agree_corner :
    let box : Step := .build (.filter .geoBox) "f" { positional := [.plain (.str "at")] }
    let point : Step := .build .geoPoint "p" { positional := [.plain (.arr [.int 52, .int 13])] }
    let s := ({} : Session).after [box, point]
    let give (operands : List Operand) :=
      s.step (.call "f" "top_left" { positional := operands } {})
    let changed := (give [.ref "p"]).session.after
      [.call "p" "string" { positional := [.plain (.str "1,2")] } {}]
    give [.ref "p"] = give [.plain (.int 52), .plain (.int 13)] ∧
      Entries.get? changed.bindings "f" = Entries.get? (give [.ref "p"]).session.bindings "f" ∧
      ∃ p, Entries.get? changed.bindings "p" = some (.object (.node p)) ∧
        p.fragment = .str "1,2" := by
  intro box point s give changed
  obtain ⟨hgive, hlater⟩ := points_agree.2 (PlaceMethod.corner "top_left") (List.mem_cons_self ..)
    s "f" (.nestedEnvelope (.filter .geoBox) "geo_bounding_box" "at" []) {} rfl rfl
  refine ⟨(hgive (.int 52) (.int 13) nofun nofun).2 "p" rfl, hlater [.ref "p"] _ ?_, _, rfl, rfl⟩
  intro step hstep
  rw [List.mem_singleton.1 hstep]
  decide

end Session

end SearchBuilder
