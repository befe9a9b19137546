import SearchBuilder.Catalog.Words
import SearchBuilder.Document.Operation

/-!
# Filters

The methods and the construction of every kind of filter. A filter is an envelope under the name
of its kind, with a name and caching options in the body.
-/

namespace SearchBuilder.FilterKind

open Operation

/-! ## Methods -/

/-- The options of every filter. -/
def shared : Methods :=
  [("name", option .body "_name"), ("cache", option .body "_cache"),
    ("cache_key", option .body "_cache_key")]

/-- The methods of a kind of its own. -/
def own : FilterKind → Methods
  | generic | matchAll => []
  | term => [("field", .field .rename), ("term", .field .value)]
  | wordStart => [("field", .field .rename), ("prefix", .field .value)]
  | terms =>
    [("field", .field .rename), ("terms", .field .terms),
      ("execution", choice .body "execution" Words.termsExecutions)]
  | range =>
    ("field", .field .rename) :: ("from_", option .inner "from") ::
      options .inner ["to", "include_lower", "include_upper", "gt", "gte", "lt", "lte"]
  | «exists» => options .body ["field"]
  | missing => options .body ["field", "existence", "null_value"]
  | ids =>
    [("values", .accessor (.heldNames .body "values" "ids")),
      ("type", .accessor (.growingNames .body "type" "type"))]
  | type => [("type", option .body "value")]
  | query => [("query", child .body "query" .query)]
  | bool =>
    [("must", children .body "must" .filter), ("must_not", children .body "must_not" .filter),
      ("should", children .body "should" .filter)]
  | and | or =>
    [("filters", children .body "filters" .filter), ("add", children .body "filters" .filter)]
  | not => [("filter", child .body "filter" .filter)]
  | geoDistance =>
    [("field", .field .renameIfSet), ("point", .geo .distancePoint),
      ("unit", choice .body "unit" Words.distanceUnits),
      ("distance_type", choice .body "distance_type" Words.distanceTypes),
      ("optimize_bbox", choice .body "optimize_bbox" Words.boxChecks)] ++
    options .body ["distance", "normalize"]
  | geoBox =>
    [("field", .field .rename), ("top_left", .geo (.corner "top_left")),
      ("bottom_right", .geo (.corner "bottom_right")),
      ("type", choice .body "type" Words.boxTypes)] ++
    options .body ["normalize"]

/-- The methods of a kind, besides those that every node has. -/
def methods (k : FilterKind) : Methods := k.own ++ shared

/-! ## Construction -/

/-- The key under which a filter stands. A generic filter is given its key when it is built. -/
def discriminator : FilterKind → String
  | generic => ""
  | matchAll => "match_all"
  | term => "term"
  | wordStart => "prefix"
  | terms => "terms"
  | range => "range"
  | «exists» => "exists"
  | missing => "missing"
  | ids => "ids"
  | type => "type"
  | query => "fquery"
  | bool => "bool"
  | and => "and"
  | or => "or"
  | not => "not"
  | geoDistance => "geo_distance"
  | geoBox => "geo_bounding_box"

/-- A filter of a kind with a body. -/
def node (k : FilterKind) (body : Entries Json) : Node :=
  .envelope (.filter k) k.discriminator body

/-- A filter for one value of a field. -/
def valueNode (k : FilterKind) (args : Arguments) (what : String) : Node :=
  let field := (args.first [what]).name
  { k.node [(field, (args.get 1 what).toJson (k.node []))] with inner := field }

/-- Builds a filter from its arguments. -/
def build (k : FilterKind) (args : Arguments) : Outcome Node :=
  let empty := k.node []
  match k with
  | generic => .chained (.envelope (.filter k) args.first.name [])
  | matchAll | bool => .chained empty
  | term => .chained (k.valueNode args "term")
  | wordStart => .chained (k.valueNode args "prefix")
  | terms =>
    let field := (args.first ["terms"]).name
    let items := FieldMethod.termsOf empty (args.get 1 "terms")
    .chained { k.node [(field, items)] with inner := field }
  | range | geoBox =>
    .chained (.nestedEnvelope (.filter k) k.discriminator args.first.name [])
  | «exists» | missing => .chained (k.node [("field", args.first.toJson empty)])
  | ids =>
    match args.first.names? with
    | some names => .chained (k.node [("values", .ofStrings names)])
    | none => .refused empty (.notNames "ids")
  | type => .chained (k.node [("value", args.first.toJson empty)])
  | query => (child .body "query" .query).run empty (.one args.first)
  | and | or =>
    (children .body "filters" .filter).run (k.node [("filters", .arr [])]) (.one args.first)
  | not => (child .body "filter" .filter).run empty (.one args.first)
  | geoDistance => .chained { empty with inner := args.first.name }

end SearchBuilder.FilterKind
