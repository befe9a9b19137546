import SearchBuilder.Catalog.Words
import SearchBuilder.Document.Operation

/-!
# Aggregations

The methods and the construction of aggregations. An aggregation is an envelope under the name
that the user gives it. Those that take their values from a field or a script keep their settings
under their type; buckets can hold further aggregations, metrics cannot.
-/

namespace SearchBuilder.AggregationKind

open Operation

/-! ## Methods -/

/-- Aggregations inside a bucket, merged by name. -/
def nesting : Methods :=
  [("aggregation", named .body "aggs" .aggregation), ("agg", named .body "aggs" .aggregation)]

/-- A metric refuses aggregations inside. -/
def refusing : Methods :=
  [("aggregation", .bucket .noSubAggregations), ("agg", .bucket .noSubAggregations)]

/-- Where the values come from. -/
def valueSource : Methods :=
  options .inner ["field", "script", "script_id", "script_file", "lang", "params"]

/-- The methods of a kind, besides those that every node has. -/
def methods : AggregationKind → Methods
  | generic => nesting
  | genericBuckets => valueSource ++ nesting
  | genericMetrics | avg | sum | min | max | stats | valueCount => valueSource ++ refusing
  | cardinality => options .inner ["precision_threshold", "rehash"] ++ valueSource ++ refusing
  | terms =>
    [("value_type", choice .inner "value_type" Words.valueTypes),
      ("execution_hint", choice .inner "execution_hint" Words.executionHints),
      ("include", .bucket (.pattern "include")), ("exclude", .bucket (.pattern "exclude")),
      ("order", .bucket .order)] ++
    options .inner ["format", "size", "shard_size", "min_doc_count"] ++ valueSource ++ nesting
  | histogram =>
    [("extended_bounds", .bucket .bounds), ("order", .bucket .order)] ++
    options .inner ["interval", "format", "min_doc_count", "keyed"] ++ valueSource ++ nesting
  | range => ("range", .bucket .range) :: options .inner ["keyed"] ++ valueSource ++ nesting
  | filter => ("filter", child .body "filter" .filter) :: nesting
  | global => nesting
  | missing => options .inner ["field"] ++ nesting
  | nested => options .inner ["path"] ++ nesting

/-! ## Construction -/

/-- The type of an aggregation, under which its settings stand. The generic kinds are given it when
they are built; a filter aggregation has no settings. -/
def type : AggregationKind → String
  | generic | genericBuckets | genericMetrics | filter => ""
  | terms => "terms"
  | histogram => "histogram"
  | range => "range"
  | global => "global"
  | missing => "missing"
  | nested => "nested"
  | avg => "avg"
  | sum => "sum"
  | min => "min"
  | max => "max"
  | stats => "stats"
  | valueCount => "value_count"
  | cardinality => "cardinality"

/-- Builds an aggregation from its arguments. -/
def build (k : AggregationKind) (args : Arguments) : Outcome Node :=
  let name := (args.first ["agg_type"]).name
  match k with
  | generic | filter => .chained (.envelope (.aggregation k) name [])
  | genericBuckets | genericMetrics =>
    .chained (.nestedEnvelope (.aggregation k) name (args.get 1 "agg_type").name [])
  | _ => .chained (.nestedEnvelope (.aggregation k) name k.type [])

end SearchBuilder.AggregationKind
