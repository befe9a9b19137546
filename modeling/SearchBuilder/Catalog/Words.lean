/-!
# Words of options

The closed sets of words that options take, in the form in which they are stored.
-/

namespace SearchBuilder.Words

/-- How the terms of a match are combined. -/
def matchOperators : List String := ["and", "or"]

/-- How a match treats its terms. -/
def matchTypes : List String := ["boolean", "phrase", "phrase_prefix"]

/-- What matches if analysis leaves no terms. -/
def zeroTerms : List String := ["all", "none"]

/-- How a match over several fields treats them. -/
def multiMatchTypes : List String :=
  ["best_fields", "most_fields", "cross_fields", "phrase", "phrase_prefix"]

/-- How the terms of a query string are combined. -/
def defaultOperators : List String := ["AND", "OR"]

/-- How a terms query is executed. -/
def termsExecutions : List String :=
  ["plain", "bool", "and", "or", "fielddata", "bool_nocache", "and_nocache", "or_nocache"]

/-- How the scores of nested documents are combined. -/
def nestedScoreModes : List String := ["avg", "total", "max", "none", "sum", "min"]

/-- How the scores of functions are combined. -/
def functionScoreModes : List String := ["avg", "max", "min", "sum", "multiply", "first"]

/-- How the score of functions is combined with that of the query. -/
def functionBoostModes : List String := ["multiply", "replace", "sum", "avg", "max", "min"]

/-- What is applied to the value of a field that counts as a score. -/
def modifiers : List String :=
  ["none", "log", "log1p", "log2p", "ln", "ln1p", "ln2p", "square", "sqrt", "reciprocal"]

/-- Which of several values of a field decides a decay. -/
def multiValueModes : List String := ["min", "max", "avg", "sum"]

/-- The units of distances. -/
def distanceUnits : List String :=
  ["mi", "miles", "in", "inch", "yd", "yard", "ft", "feet", "km", "kilometers", "mm",
    "millimeters", "cm", "centimeters", "m", "meters"]

/-- How distances are computed. -/
def distanceTypes : List String := ["arc", "plane", "sloppy_arc"]

/-- How a distance filter uses bounding boxes first. -/
def boxChecks : List String := ["memory", "indexed", "none"]

/-- How a bounding box filter is executed. -/
def boxTypes : List String := ["memory", "indexed"]

/-- The types of values that an aggregation reads. -/
def valueTypes : List String := ["string", "double", "float", "long", "integer", "short", "byte"]

/-- How a terms aggregation is executed. -/
def executionHints : List String :=
  ["map", "global_ordinals", "global_ordinals_hash", "global_ordinals_low_cardinality"]

/-- How facets are collected. -/
def facetModes : List String := ["collector", "post"]

/-- The orders of a terms facet. -/
def termsFacetOrders : List String := ["count", "term", "reverse_count", "reverse_term"]

/-- The orders of a histogram facet. -/
def histogramFacetOrders : List String := ["key", "count", "total"]

/-- Which of several values of a field is sorted by. -/
def sortModes : List String := ["min", "max", "avg", "sum"]

/-- The types of what a sort script answers. -/
def scriptTypes : List String := ["string", "number"]

/-- How scores are combined when rescoring. -/
def rescoreModes : List String := ["total", "min", "max", "multiply", "avg"]

/-- The types of inline shapes. -/
def shapeTypes : List String :=
  ["point", "linestring", "polygon", "multipoint", "envelope", "multipolygon", "circle",
    "multilinestring"]

/-- The orders of highlighted fragments. -/
def highlightOrders : List String := ["score"]

/-- The named sets of tags. -/
def tagsSchemas : List String := ["styled"]

/-- How highlighted text is encoded. -/
def encoders : List String := ["default", "html"]

/-- The implementations of highlighting. -/
def highlighters : List String := ["highlighter", "plain", "fast-vector-highlighter", "postings"]

/-- How text is cut into fragments. -/
def fragmenters : List String := ["simple", "span"]

/-- Which terms get suggestions. -/
def suggestModes : List String := ["missing", "popular", "always"]

/-- The orders of suggestions. -/
def suggestionSorts : List String := ["score", "frequency"]

/-- How the distance of two terms is measured. -/
def stringDistances : List String :=
  ["internal", "damerau_levenshtein", "levenstein", "jarowinkler", "ngram"]

/-- How a search is executed across shards. -/
def searchTypes : List String :=
  ["dfs_query_then_fetch", "dfs_query_and_fetch", "query_then_fetch", "query_and_fetch", "scan",
    "count"]

end SearchBuilder.Words
