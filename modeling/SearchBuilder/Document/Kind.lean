import SearchBuilder.Document.Category

/-!
# Kinds of nodes

The kinds of nodes that can be built, family by family, with the names by which they are built.
Each family also has generic kinds, which carry only what the whole family shares.
-/

namespace SearchBuilder

/-- The kinds of queries. -/
inductive QueryKind where
  | generic
  | matchAll
  | term
  | wordStart
  | wildcard
  | terms
  | text
  | multiField
  | range
  | ids
  | queryString
  | bool
  | disMax
  | constantScore
  | filtered
  | nested
  | functionScore
  | spanTerm
  | spanNear
  | spanOr
  | spanNot
  | spanFirst
  deriving DecidableEq, Repr

/-- The kinds of filters. -/
inductive FilterKind where
  | generic
  | matchAll
  | term
  | wordStart
  | terms
  | range
  | exists
  | missing
  | ids
  | type
  | query
  | bool
  | and
  | or
  | not
  | geoDistance
  | geoBox
  deriving DecidableEq, Repr

/-- The kinds of score functions. -/
inductive ScoreKind where
  | generic
  | bare
  | boostFactor
  | script
  | random
  | fieldValue
  | decay
  deriving DecidableEq, Repr

/-- The kinds of aggregations. -/
inductive AggregationKind where
  | generic
  | genericBuckets
  | genericMetrics
  | terms
  | histogram
  | range
  | filter
  | global
  | missing
  | nested
  | avg
  | sum
  | min
  | max
  | stats
  | valueCount
  | cardinality
  deriving DecidableEq, Repr

/-- The kinds of facets. -/
inductive FacetKind where
  | generic
  | terms
  | statistical
  | histogram
  | filter
  | query
  deriving DecidableEq, Repr

/-- The kinds of suggesters. -/
inductive SuggesterKind where
  | generic
  | genericContext
  | term
  | phrase
  | completion
  deriving DecidableEq, Repr

/-- A kind of node. -/
inductive Kind where
  | query (k : QueryKind)
  | filter (k : FilterKind)
  | score (k : ScoreKind)
  | aggregation (k : AggregationKind)
  | facet (k : FacetKind)
  | suggester (k : SuggesterKind)
  | generator
  | geoPoint
  | shape
  | indexedShape
  | highlight
  | sort
  | scriptField
  | rescore
  | request
  | plain
  deriving DecidableEq, Repr

/-! ## Names -/

/-- All kinds of queries. -/
def QueryKind.all : List QueryKind :=
  [.generic, .matchAll, .term, .wordStart, .wildcard, .terms, .text, .multiField, .range, .ids,
    .queryString, .bool, .disMax, .constantScore, .filtered, .nested, .functionScore, .spanTerm,
    .spanNear, .spanOr, .spanNot, .spanFirst]

/-- The name by which queries of a kind are built. -/
def QueryKind.name : QueryKind → String
  | generic => "QueryMixin"
  | matchAll => "MatchAllQuery"
  | term => "TermQuery"
  | wordStart => "PrefixQuery"
  | wildcard => "WildcardQuery"
  | terms => "TermsQuery"
  | text => "MatchQuery"
  | multiField => "MultiMatchQuery"
  | range => "RangeQuery"
  | ids => "IdsQuery"
  | queryString => "QueryStringQuery"
  | bool => "BoolQuery"
  | disMax => "DisMaxQuery"
  | constantScore => "ConstantScoreQuery"
  | filtered => "FilteredQuery"
  | nested => "NestedQuery"
  | functionScore => "FunctionScoreQuery"
  | spanTerm => "SpanTermQuery"
  | spanNear => "SpanNearQuery"
  | spanOr => "SpanOrQuery"
  | spanNot => "SpanNotQuery"
  | spanFirst => "SpanFirstQuery"

/-- All kinds of filters. -/
def FilterKind.all : List FilterKind :=
  [.generic, .matchAll, .term, .wordStart, .terms, .range, .exists, .missing, .ids, .type, .query,
    .bool, .and, .or, .not, .geoDistance, .geoBox]

/-- The name by which filters of a kind are built. -/
def FilterKind.name : FilterKind → String
  | generic => "FilterMixin"
  | matchAll => "MatchAllFilter"
  | term => "TermFilter"
  | wordStart => "PrefixFilter"
  | terms => "TermsFilter"
  | range => "RangeFilter"
  | «exists» => "ExistsFilter"
  | missing => "MissingFilter"
  | ids => "IdsFilter"
  | type => "TypeFilter"
  | query => "QueryFilter"
  | bool => "BoolFilter"
  | and => "AndFilter"
  | or => "OrFilter"
  | not => "NotFilter"
  | geoDistance => "GeoDistanceFilter"
  | geoBox => "GeoBboxFilter"

/-- All kinds of score functions. -/
def ScoreKind.all : List ScoreKind :=
  [.generic, .bare, .boostFactor, .script, .random, .fieldValue, .decay]

/-- The name by which score functions of a kind are built. -/
def ScoreKind.name : ScoreKind → String
  | generic => "ScoreFunctionMixin"
  | bare => "ScoreFunction"
  | boostFactor => "BoostFactorScoreFunction"
  | script => "ScriptScoreFunction"
  | random => "RandomScoreFunction"
  | fieldValue => "FieldValueFactorFunction"
  | decay => "DecayScoreFunction"

/-- All kinds of aggregations. -/
def AggregationKind.all : List AggregationKind :=
  [.generic, .genericBuckets, .genericMetrics, .terms, .histogram, .range, .filter, .global,
    .missing, .nested, .avg, .sum, .min, .max, .stats, .valueCount, .cardinality]

/-- The name by which aggregations of a kind are built. -/
def AggregationKind.name : AggregationKind → String
  | generic => "AggregationMixin"
  | genericBuckets => "BucketsAggregationMixin"
  | genericMetrics => "MetricsAggregationMixin"
  | terms => "TermsAggregation"
  | histogram => "HistogramAggregation"
  | range => "RangeAggregation"
  | filter => "FilterAggregation"
  | global => "GlobalAggregation"
  | missing => "MissingAggregation"
  | nested => "NestedAggregation"
  | avg => "AvgAggregation"
  | sum => "SumAggregation"
  | min => "MinAggregation"
  | max => "MaxAggregation"
  | stats => "StatsAggregation"
  | valueCount => "ValueCountAggregation"
  | cardinality => "CardinalityAggregation"

/-- All kinds of facets. -/
def FacetKind.all : List FacetKind :=
  [.generic, .terms, .statistical, .histogram, .filter, .query]

/-- The name by which facets of a kind are built. -/
def FacetKind.name : FacetKind → String
  | generic => "FacetMixin"
  | terms => "TermsFacet"
  | statistical => "StatisticalFacet"
  | histogram => "HistogramFacet"
  | filter => "FilterFacet"
  | query => "QueryFacet"

/-- All kinds of suggesters. -/
def SuggesterKind.all : List SuggesterKind :=
  [.generic, .genericContext, .term, .phrase, .completion]

/-- The name by which suggesters of a kind are built. -/
def SuggesterKind.name : SuggesterKind → String
  | generic => "SuggesterMixin"
  | genericContext => "SuggestContextMixin"
  | term => "TermSuggester"
  | phrase => "PhraseSuggester"
  | completion => "CompletionSuggester"

namespace Kind

/-- All kinds. -/
def all : List Kind :=
  QueryKind.all.map .query ++ FilterKind.all.map .filter ++ ScoreKind.all.map .score ++
    AggregationKind.all.map .aggregation ++ FacetKind.all.map .facet ++
    SuggesterKind.all.map .suggester ++
    [.generator, .geoPoint, .shape, .indexedShape, .highlight, .sort, .scriptField, .rescore,
      .request, .plain]

/-- The name by which nodes of a kind are built and shown. -/
def name : Kind → String
  | query k => k.name
  | filter k => k.name
  | score k => k.name
  | aggregation k => k.name
  | facet k => k.name
  | suggester k => k.name
  | generator => "DirectGenerator"
  | geoPoint => "GeoPoint"
  | shape => "Shape"
  | indexedShape => "IndexedShape"
  | highlight => "Highlight"
  | sort => "Sort"
  | scriptField => "ScriptField"
  | rescore => "Rescore"
  | request => "Request"
  | plain => "Node"

/-- The kind of a name. -/
def ofName? (name : String) : Option Kind := all.find? (·.name = name)

/-- The category of a kind; a plain node has none. -/
def category : Kind → Option Category
  | query _ => some .query
  | filter _ => some .filter
  | score _ => some .scoreFunction
  | aggregation _ => some .aggregation
  | facet _ => some .facet
  | suggester _ => some .suggest
  | generator => some .generator
  | geoPoint => some .geoPoint
  | shape => some .shape
  | indexedShape => some .indexedShape
  | highlight => some .highlight
  | sort => some .sort
  | scriptField => some .scriptField
  | rescore => some .rescore
  | request => some .request
  | plain => none

end Kind

end SearchBuilder
