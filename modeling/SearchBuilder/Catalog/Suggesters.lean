import SearchBuilder.Catalog.Words
import SearchBuilder.Document.Operation

/-!
# Suggesters

The methods and the construction of suggesters and of the generators of candidates that phrase
suggesters use. A suggester is an envelope under the name that the user gives it; its text stands
in the body and its settings under its type.
-/

namespace SearchBuilder

open Operation

/-- The options by which candidates for a term are chosen, at a place. -/
def candidateOptions (place : Place) : Methods :=
  [("suggest_mode", choice place "suggest_mode" Words.suggestModes),
    ("sort", choice place "sort" Words.suggestionSorts),
    ("string_distance", choice place "string_distance" Words.stringDistances)] ++
  options place
    ["accuracy", "max_edits", "max_inspections", "max_term_freq", "prefix_len", "min_word_len",
      "min_doc_freq"]

/-- The methods of a generator of candidates. -/
def generatorMethods : Methods :=
  options .root ["field", "size", "pre_filter", "post_filter"] ++ candidateOptions .root

namespace SuggesterKind

/-- The options of every suggester with settings. -/
def context : Methods :=
  options .inner ["analyzer", "field", "size", "shard_size"] ++ options .body ["text"]

/-- The methods of a kind, besides those that every node has. -/
def methods : SuggesterKind → Methods
  | generic => options .body ["text"]
  | genericContext => context
  | term => candidateOptions .inner ++ context
  | phrase =>
    [("linear_smoothing", .suggestion .linearSmoothing),
      ("laplace_smoothing", .suggestion .laplaceSmoothing),
      ("stupid_backoff_smoothing", .suggestion .backoffSmoothing),
      ("highlight", .suggestion .changeTags),
      ("direct_generator", children .inner "direct_generator" .generator)] ++
    options .inner
      ["real_word_error_likelihood", "confidence", "separator", "max_errors", "gram_size",
        "force_unigrams", "token_limit"] ++ context
  | completion =>
    ("fuzzy", .suggestion .fuzzy) ::
    (["transpositions", "unicode_aware", "edit_distance", "min_length", "prefix_length"].map
      fun key => (key, .suggestion (.fuzzyOption key))) ++ context

/-- The type of a suggester, under which its settings stand. The generic kinds have none or are
given it when they are built. -/
def type : SuggesterKind → String
  | generic | genericContext => ""
  | term => "term"
  | phrase => "phrase"
  | completion => "completion"

/-- Builds a suggester from its arguments. -/
def build (k : SuggesterKind) (args : Arguments) : Outcome Node :=
  let name := (args.first ["suggest_type"]).name
  match k with
  | generic => .chained (.envelope (.suggester k) name [])
  | genericContext =>
    .chained (.nestedEnvelope (.suggester k) name (args.get 1 "suggest_type").name [])
  | _ => .chained (.nestedEnvelope (.suggester k) name k.type [])

end SuggesterKind

end SearchBuilder
