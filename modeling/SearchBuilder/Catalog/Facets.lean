import SearchBuilder.Catalog.Words
import SearchBuilder.Document.Operation

/-!
# Facets

The methods and the construction of facets. A facet is an envelope under the name that the user
gives it; most keep their settings under their type.
-/

namespace SearchBuilder.FacetKind

open Operation

/-- The options of every facet. -/
def shared : Methods :=
  [("facet_filter", child .body "facet_filter" .filter), ("global_", option .body "global"),
    ("mode", choice .body "mode" Words.facetModes)] ++
  options .body ["cache_filter", "nested"]

/-- The fields of a facet over several fields. -/
def fields : Methods := [("fields", .accessor (.names .inner "fields" "fields"))]

/-- The methods of a kind of its own. -/
def own : FacetKind → Methods
  | generic => []
  | terms =>
    [("exclude", .accessor (.growingNames .inner "exclude" "exclude")),
      ("order", choice .inner "order" Words.termsFacetOrders), ("regex", .bucket .regex)] ++
    options .inner
      ["field", "script_field", "size", "shard_size", "all_terms", "script", "lang", "params"] ++
    fields
  | statistical => options .inner ["field", "script", "lang", "params"] ++ fields
  | histogram =>
    [("from_", option .inner "from"),
      ("order", choice .inner "order" Words.histogramFacetOrders)] ++
    options .inner
      ["field", "interval", "time_interval", "to", "key_field", "value_field", "key_script",
        "value_script", "lang", "params"]
  | filter => [("filter", child .body "filter" .filter)]
  | query => [("query", child .body "query" .query)]

/-- The methods of a kind, besides those that every node has. -/
def methods (k : FacetKind) : Methods := k.own ++ shared

/-- The type of a facet, under which its settings stand, if it has settings. -/
def type? : FacetKind → Option String
  | terms => some "terms"
  | statistical => some "statistical"
  | histogram => some "histogram"
  | generic | filter | query => none

/-- Builds a facet from its name. -/
def build (k : FacetKind) (args : Arguments) : Outcome Node :=
  let name := args.first.name
  match k.type? with
  | some type => .chained (.nestedEnvelope (.facet k) name type [])
  | none => .chained (.envelope (.facet k) name [])

end SearchBuilder.FacetKind
