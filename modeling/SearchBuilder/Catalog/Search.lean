import SearchBuilder.Catalog.Words
import SearchBuilder.Document.Operation

/-!
# Parts of a search

The methods and the construction of what a request takes besides queries, filters, aggregations
and suggesters: geo points and shapes, highlights, sort clauses, script fields and rescoring.
-/

namespace SearchBuilder

open Operation

/-! ## Points and shapes -/

/-- The forms in which a geo point can be given. -/
def pointMethods : Methods :=
  [("properties", .geo .pointProperties), ("string", .geo .pointText),
    ("geohash", .geo .pointHash), ("array", .geo .pointPair)]

/-- A geo point; what is no pair gives the point at zero. -/
def buildPoint (args : Arguments) : Outcome Node :=
  let empty : Node := { kind := .geoPoint, fragment := .arr [.int 0, .int 0] }
  .chained { empty with fragment := (lonLat? empty args.first).getD empty.fragment }

/-- The methods of an inline shape. -/
def shapeMethods : Methods :=
  ("type", choice .root "type" Words.shapeTypes) :: options .root ["coordinates", "radius"]

/-- An inline shape of a type, with coordinates. -/
def buildShape (args : Arguments) : Outcome Node :=
  let typed := (choice .root "type" Words.shapeTypes).run { kind := .shape, fragment := .empty }
    (.one (args.first ["coordinates"]))
  typed.andThen fun n =>
    n.writeOption .root "coordinates" ((args.get 1 "coordinates").toJson n)

/-- The methods of a shape that is stored in another document. -/
def indexedShapeMethods : Methods := options .root ["type", "id", "index", "shape_field_name"]

/-- A shape that is stored in another document. -/
def buildIndexedShape (args : Arguments) : Outcome Node :=
  let empty : Node := { kind := .indexedShape, fragment := .empty }
  let type := (args.first ["doc_id"]).toJson empty
  let id := (args.get 1 "doc_id").toJson empty
  .chained { empty with fragment := .obj [("type", type), ("id", id)] }

/-! ## Highlights -/

/-- The methods of a highlight. -/
def highlightMethods : Methods :=
  [("fields", .highlight .fields), ("pre_tags", .highlight (.tags "pre_tags")),
    ("post_tags", .highlight (.tags "post_tags")),
    ("order", .highlight (.choice "order" Words.highlightOrders)),
    ("type", .highlight (.choice "type" Words.highlighters)),
    ("fragmenter", .highlight (.choice "fragmenter" Words.fragmenters)),
    ("tags_schema", choice .root "tags_schema" Words.tagsSchemas),
    ("encoder", choice .root "encoder" Words.encoders),
    ("options", .highlight (.settings "options"))] ++
  ["highlight_filter", "fragment_size", "number_of_fragments", "require_field_match",
    "boundary_max_scan", "boundary_chars"].map fun key => (key, .highlight (.option key))

/-- A highlight of fields. -/
def buildHighlight (args : Arguments) : Outcome Node :=
  HighlightMethod.fields.run { kind := .highlight, fragment := .empty } (.one args.first)

/-! ## Sort clauses -/

/-- The methods of a sort clause. -/
def sortMethods : Methods :=
  [("field", .sort .field), ("asc", .sort (.direction "asc")), ("desc", .sort (.direction "desc")),
    ("geo_distance", .sort .geoDistance), ("script", .sort .script),
    ("order", choice .body "order" BodyMethod.orders),
    ("mode", choice .body "mode" Words.sortModes),
    ("unit", choice .body "unit" Words.distanceUnits),
    ("distance_type", choice .body "distance_type" Words.distanceTypes),
    ("type", choice .body "type" Words.scriptTypes),
    ("nested_filter", child .body "nested_filter" .filter)] ++
  options .body
    ["reverse", "missing", "ignore_unmapped", "nested_path", "normalize", "lang", "params"]

/-- A sort clause; without a field it sorts by score. -/
def buildSort (args : Arguments) : Outcome Node :=
  let field := ((args.first? []).map Argument.name).getD "_score"
  .chained { Node.envelope .sort field [] with inner := field }

/-! ## Script fields and rescoring -/

/-- The methods of a script field. -/
def scriptFieldMethods : Methods := options .body ["script", "lang", "params", "ignore_failure"]

/-- A script field with a name. -/
def buildScriptField (args : Arguments) : Outcome Node :=
  .chained (.envelope .scriptField args.first.name [])

/-- The methods of a rescoring. -/
def rescoreMethods : Methods :=
  [("window_size", .accessor (.integer .root "window_size")),
    ("rescore_query", child .body "rescore_query" .query),
    ("query_weight", .accessor (.number .body "query_weight")),
    ("rescore_query_weight", .accessor (.number .body "rescore_query_weight")),
    ("score_mode", choice .body "score_mode" Words.rescoreModes)]

/-- A rescoring by a query. -/
def buildRescore (args : Arguments) : Outcome Node :=
  let sized := (Operation.accessor (.integer .root "window_size")).run
    (.envelope .rescore "query" []) (.one (args.get 0 "window_size"))
  sized.andThen fun n => (child .body "rescore_query" .query).run n (.one (args.get 1 "query"))

end SearchBuilder
