import SearchBuilder.Catalog.Aggregations
import SearchBuilder.Catalog.Facets
import SearchBuilder.Catalog.Filters
import SearchBuilder.Catalog.Queries
import SearchBuilder.Catalog.Scores
import SearchBuilder.Catalog.Search
import SearchBuilder.Catalog.Suggesters

/-!
# The catalog

The methods of every kind of node and how nodes of a kind are built. `Node.call` looks a method up
by its name and runs its operation.
-/

namespace SearchBuilder

open Operation

/-- The sections of a request body, by their methods. -/
def bodyMethods : Methods :=
  [("query", child .root "query" .query), ("filter", child .root "filter" .filter),
    ("highlight", child .root "highlight" .highlight), ("rescore", child .root "rescore" .rescore),
    ("sort", .body .sort), ("source", .body .source), ("suggest", .body .suggest),
    ("index_boost", .body .indexBoost),
    ("fields", .accessor (.growingNames .root "fields" "fields")),
    ("from_", option .root "from"),
    ("facet", named .root "facets" .facet), ("aggregation", named .root "aggs" .aggregation),
    ("agg", named .root "aggs" .aggregation),
    ("script_field", named .root "script_fields" .scriptField)] ++
  options .root ["size", "timeout", "track_scores", "explain", "version", "min_score"]

namespace Kind

/-- The methods of a kind, besides those that every node has. -/
def ownMethods : Kind → Methods
  | query k => k.methods
  | filter k => k.methods
  | score k => k.methods
  | aggregation k => k.methods
  | facet k => k.methods
  | suggester k => k.methods
  | generator => generatorMethods
  | geoPoint => pointMethods
  | shape => shapeMethods
  | indexedShape => indexedShapeMethods
  | highlight => highlightMethods
  | sort => sortMethods
  | scriptField => scriptFieldMethods
  | rescore => rescoreMethods
  | request => bodyMethods
  | plain => []

/-- All methods of a kind. -/
def methods (k : Kind) : Methods := k.ownMethods ++ inspections

/-- Builds a node of a kind. A plain node is given its fragment, the body of a request is empty. -/
def build (k : Kind) (args : Arguments) : Outcome Node :=
  match k with
  | query k => k.build args
  | filter k => k.build args
  | score k => k.build args
  | aggregation k => k.build args
  | facet k => k.build args
  | suggester k => k.build args
  | generator => .chained { kind := .generator, fragment := .empty }
  | geoPoint => buildPoint args
  | shape => buildShape args
  | indexedShape => buildIndexedShape args
  | highlight => buildHighlight args
  | sort => buildSort args
  | scriptField => buildScriptField args
  | rescore => buildRescore args
  | request => .chained { kind := .request, fragment := .empty }
  | plain =>
    let empty : Node := { kind := .plain, fragment := .null }
    .chained { empty with fragment := args.first.toJson empty }

end Kind

/-- Calls a method of a node by its name. -/
def Node.call (n : Node) (method : String) (args : Arguments) : Outcome Node :=
  match Entries.get? n.kind.methods method with
  | some operation => operation.run n args
  | none => .failed n .noMethod

end SearchBuilder
