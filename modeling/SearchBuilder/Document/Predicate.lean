import SearchBuilder.Document.Argument

/-!
# Predicates

The tests by which values are told apart: whether something is a node at all, whether it is a node
of a category, and whether it is a span query.
-/

namespace SearchBuilder

/-- A test of a value. -/
inductive Predicate where
  | node
  | expected (e : Expected)
  deriving DecidableEq, Repr

namespace Predicate

/-- A test for a category. -/
def category (c : Category) : Predicate := .expected (.category c)

/-- All predicates with their names. -/
def all : List (String × Predicate) :=
  [("is_node", .node), ("is_query", category .query), ("is_filter", category .filter),
    ("is_facet", category .facet), ("is_aggregation", category .aggregation),
    ("is_sort", category .sort), ("is_highlight", category .highlight),
    ("is_suggest", category .suggest), ("is_score_function", category .scoreFunction),
    ("is_geo_point", category .geoPoint), ("is_script_field", category .scriptField),
    ("is_rescore", category .rescore), ("is_shape", category .shape),
    ("is_indexed_shape", category .indexedShape), ("is_generator", category .generator),
    ("is_span_query", .expected .spanQuery)]

/-- Whether a value passes a test. -/
def holds (p : Predicate) (self : Node) (v : Argument) : Bool :=
  match p with
  | node => v.isNode self
  | expected e => v.satisfies self e

/-- The names of the tests that a value passes. -/
def namesOf (self : Node) (v : Argument) : List String :=
  (all.filter fun (_, p) => p.holds self v).map (·.1)

end Predicate

end SearchBuilder
