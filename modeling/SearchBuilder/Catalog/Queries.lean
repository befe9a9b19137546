import SearchBuilder.Catalog.Words
import SearchBuilder.Document.Operation

/-!
# Queries

The methods and the construction of every kind of query. A query is an envelope under the name of
its kind; all but those that keep a boost with their field have one in the body.
-/

namespace SearchBuilder.QueryKind

open Operation

/-! ## Methods -/

/-- The boost that most queries keep in the body. -/
def boost : Methods := options .body ["boost"]

/-- The methods of queries for one value of a field. -/
def fieldValue : Methods :=
  ("field", .field .rename) :: options .inner ["value", "boost"]

/-- The limits of a range, by their methods. -/
def limits : Methods :=
  ("from_", option .inner "from") ::
    options .inner ["to", "include_lower", "include_upper", "gt", "gte", "lt", "lte"]

/-- The caching options of queries that wrap a filter. -/
def caching : Methods :=
  [("cache", option .body "_cache"), ("cache_key", option .body "_cache_key")]

/-- A wrapped query and a wrapped filter. -/
def wrapping : Methods :=
  [("query", child .body "query" .query), ("filter", child .body "filter" .filter)]

/-- The methods of a kind, besides those that every node has. -/
def methods : QueryKind → Methods
  | generic => boost
  | matchAll => boost
  | term => ("term", option .inner "value") :: fieldValue
  | wordStart =>
    ("prefix", option .inner "value") :: ("rewrite", option .inner "rewrite") :: fieldValue
  | wildcard => ("rewrite", option .inner "rewrite") :: fieldValue
  | terms =>
    [("field", .field .rename), ("terms", .field .terms),
      ("execution", choice .body "execution" Words.termsExecutions)] ++
    options .body ["minimum_should_match", "disable_coord"] ++ boost
  | text =>
    [("field", .field .rename), ("type", choice .inner "type" Words.matchTypes),
      ("operator", choice .inner "operator" Words.matchOperators),
      ("zero_terms_query", choice .inner "zero_terms_query" Words.zeroTerms)] ++
    options .inner
      ["query", "boost", "fuzziness", "prefix_length", "max_expansions", "analyzer", "slop",
        "minimum_should_match"]
  | multiField =>
    [("fields", .accessor (.heldNames .body "fields" "fields")),
      ("type", choice .body "type" Words.multiMatchTypes),
      ("operator", choice .body "operator" Words.matchOperators)] ++
    options .body ["query", "tie_breaker", "analyzer", "minimum_should_match"] ++ boost
  | range => ("field", .field .rename) :: options .inner ["boost"] ++ limits
  | ids =>
    [("values", .accessor (.heldNames .body "values" "ids")),
      ("type", .accessor (.names .body "type" "type"))] ++ boost
  | queryString =>
    [("fields", .field .fieldList),
      ("default_operator",
        .accessor (.choice .body "default_operator" Words.defaultOperators .upper))] ++
    options .body
      ["query", "default_field", "analyzer", "allow_leading_wildcard", "lowercase_expanded_terms",
        "analyze_wildcard", "phrase_slop", "minimum_should_match", "lenient"] ++ boost
  | bool =>
    [("must", children .body "must" .query), ("must_not", children .body "must_not" .query),
      ("should", children .body "should" .query)] ++
    options .body
      ["adjust_pure_negative", "disable_coord", "minimum_number_should_match",
        "minimum_should_match"] ++ boost
  | disMax =>
    [("add", children .body "queries" .query), ("queries", children .body "queries" .query)] ++
    options .body ["tie_breaker"] ++ boost
  | constantScore => wrapping ++ caching ++ boost
  | filtered => wrapping ++ caching ++ boost
  | nested =>
    wrapping ++ ("score_mode", choice .body "score_mode" Words.nestedScoreModes) ::
      options .body ["path"] ++ boost
  | functionScore =>
    wrapping ++
    [("score_mode", choice .body "score_mode" Words.functionScoreModes),
      ("boost_mode", choice .body "boost_mode" Words.functionBoostModes),
      ("function", children .body "functions" .scoreFunction),
      ("functions", children .body "functions" .scoreFunction)] ++
    options .body ["max_boost"] ++ boost
  | spanTerm => ("term", option .inner "value") :: fieldValue
  | spanNear =>
    [("clauses", spans .body "clauses"), ("add_clause", spans .body "clauses")] ++
    options .body ["slop", "in_order", "collect_payloads"] ++ boost
  | spanOr => [("clauses", spans .body "clauses"), ("add_clause", spans .body "clauses")] ++ boost
  | spanNot =>
    [("include", span .body "include"), ("exclude", span .body "exclude")] ++
    options .body ["pre", "post", "dist"] ++ boost
  | spanFirst => ("match", span .body "match") :: options .body ["end"] ++ boost

/-! ## Construction -/

/-- The key under which a query stands. A generic query is given its key when it is built. -/
def discriminator : QueryKind → String
  | generic => ""
  | matchAll => "match_all"
  | term => "term"
  | wordStart => "prefix"
  | wildcard => "wildcard"
  | terms => "terms"
  | text => "match"
  | multiField => "multi_match"
  | range => "range"
  | ids => "ids"
  | queryString => "query_string"
  | bool => "bool"
  | disMax => "dis_max"
  | constantScore => "constant_score"
  | filtered => "filtered"
  | nested => "nested"
  | functionScore => "function_score"
  | spanTerm => "span_term"
  | spanNear => "span_near"
  | spanOr => "span_or"
  | spanNot => "span_not"
  | spanFirst => "span_first"

/-- A query of a kind with a body. -/
def node (k : QueryKind) (body : Entries Json) : Node :=
  .envelope (.query k) k.discriminator body

/-- A query of a kind that keeps its options with a field. -/
def fieldNode (k : QueryKind) (field : String) (options : Entries Json) : Node :=
  .nestedEnvelope (.query k) k.discriminator field options

/-- A query for one value of a field. -/
def valueNode (k : QueryKind) (args : Arguments) (what : String) : Node :=
  let plain := k.node []
  k.fieldNode (args.first [what]).name [("value", (args.get 1 what).toJson plain)]

/-- Builds a query from its arguments. -/
def build (k : QueryKind) (args : Arguments) : Outcome Node :=
  let empty := k.node []
  match k with
  | generic => .chained (.envelope (.query k) args.first.name [])
  | term | spanTerm => .chained (k.valueNode args "term")
  | wordStart => .chained (k.valueNode args "prefix")
  | wildcard => .chained (k.valueNode args "pattern")
  | terms =>
    let field := (args.first ["terms"]).name
    let items := FieldMethod.termsOf empty (args.get 1 "terms")
    .chained { k.node [(field, items)] with inner := field }
  | text =>
    let query := (args.get 1 "query").toJson empty
    .chained (k.fieldNode (args.first ["query"]).name [("query", query)])
  | multiField =>
    let fields := args.first ["query"]
    match fields.names? with
    | some names =>
      .chained (k.node [("query", (args.get 1 "query").toJson empty), ("fields", .ofStrings names)])
    | none => .refused empty (.notNames "fields")
  | range => .chained (k.fieldNode args.first.name [])
  | ids =>
    match args.first.names? with
    | some names => .chained (k.node [("values", .ofStrings names)])
    | none => .refused empty (.notNames "ids")
  | queryString => .chained (k.node [("query", args.first.toJson empty)])
  | filtered =>
    ((child .body "query" .query).run empty (.one (args.get 0 "query"))).andThen fun n =>
      (child .body "filter" .filter).run n (.one (args.get 1 "filter_"))
  | nested => .chained (k.node [("path", args.first.toJson empty)])
  | spanNear | spanOr =>
    (spans .body "clauses").run (k.node [("clauses", .arr [])]) (.one args.first)
  | spanNot =>
    ((span .body "include").run empty (.one (args.get 0 "include"))).andThen fun n =>
      (span .body "exclude").run n (.one (args.get 1 "exclude"))
  | spanFirst =>
    ((span .body "match").run empty (.one (args.get 0 "match"))).andThen fun n =>
      (option .body "end").run n (.one (args.get 1 "end"))
  | matchAll | bool | disMax | constantScore | functionScore => .chained empty

end SearchBuilder.QueryKind
