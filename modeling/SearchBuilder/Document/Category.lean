/-!
# Categories

Every node of a request document carries the tag of its category. Slots that take other nodes ask
for a category; the clauses of span queries ask for a query that is a span query besides.
-/

namespace SearchBuilder

/-- What a node contributes to a request. -/
inductive Category where
  | query
  | filter
  | facet
  | aggregation
  | sort
  | highlight
  | suggest
  | scoreFunction
  | geoPoint
  | scriptField
  | rescore
  | shape
  | indexedShape
  | generator
  | request
  deriving DecidableEq, Repr

namespace Category

/-- All categories. -/
def all : List Category :=
  [.query, .filter, .facet, .aggregation, .sort, .highlight, .suggest, .scoreFunction, .geoPoint,
    .scriptField, .rescore, .shape, .indexedShape, .generator, .request]

/-- The tag by which a category is told. -/
def tag : Category → String
  | query => "query"
  | filter => "filter"
  | facet => "facet"
  | aggregation => "aggregation"
  | sort => "sort"
  | highlight => "highlight"
  | suggest => "suggest"
  | scoreFunction => "score function"
  | geoPoint => "geo point"
  | scriptField => "script field"
  | rescore => "rescore"
  | shape => "shape"
  | indexedShape => "indexed shape"
  | generator => "generator"
  | request => "request"

/-- The category of a tag. -/
def ofTag? (tag : String) : Option Category := all.find? (·.tag = tag)

end Category

/-- What a slot asks of a node: a category, or a query whose fragment is that of a span query. -/
inductive Expected where
  | category (c : Category)
  | spanQuery
  deriving DecidableEq, Repr

/-- The expectation in the words of error messages. -/
def Expected.words : Expected → String
  | .spanQuery => "a span Query"
  | .category c =>
    match c with
    | .query => "a Query"
    | .filter => "a Filter"
    | .facet => "a Facet"
    | .aggregation => "an Aggregation"
    | .sort => "a Sort"
    | .highlight => "a Highlight"
    | .suggest => "a string or a Suggester"
    | .scoreFunction => "a ScoreFunction"
    | .geoPoint => "a GeoPoint"
    | .scriptField => "a ScriptField"
    | .rescore => "a Rescore"
    | .shape => "a Shape"
    | .indexedShape => "an IndexedShape"
    | .generator => "a DirectGenerator"
    | .request => "a Request"

end SearchBuilder
