import SearchBuilder.Document.Accessor

/-!
# Suggester methods

The settings of phrase and completion suggesters that are more than one option: smoothing models,
the tags around changed words, and the fuzzy settings, which live in an object of their own that
the first of them begins.
-/

namespace SearchBuilder

/-- A method of a suggester. -/
inductive SuggestionMethod where
  | linearSmoothing
  | laplaceSmoothing
  | backoffSmoothing
  /-- The tags around changed words. -/
  | changeTags
  /-- Whether matching is fuzzy at all. -/
  | fuzzy
  /-- One of the fuzzy settings. -/
  | fuzzyOption (key : String)
  deriving DecidableEq, Repr

namespace SuggestionMethod

/-- Runs a method on a suggester. -/
def run (m : SuggestionMethod) (n : Node) (args : Arguments) : Outcome Node :=
  let smoothing (model : String) (settings : Entries Json) : Outcome Node :=
    n.writeOption .inner "smoothing" (.obj [(model, .obj settings)])
  match m with
  | linearSmoothing =>
    smoothing "linear"
      [("trigram_lambda", (args.get 0 "trigram").toJson n),
        ("bigram_lambda", (args.get 1 "bigram").toJson n),
        ("unigram_lambda", (args.get 2 "unigram").toJson n)]
  | laplaceSmoothing => smoothing "laplace" [("alpha", args.first.toJson n)]
  | backoffSmoothing => smoothing "stupid_backoff" [("discount", args.first.toJson n)]
  | changeTags =>
    let before := args.get 0 "pre_tag"
    let after := args.get 1 "post_tag"
    if before.isNull && after.isNull then n.readOption .inner "highlight"
    else
      n.writeOption .inner "highlight" <|
        .obj [("pre_tag", before.toJson n), ("post_tag", after.toJson n)]
  | fuzzy =>
    let v := args.first
    if v.isNull then n.readOption .inner "fuzzy"
    else
      match (n.valueAt .inner).members? with
      | none => .failed n .readsNonObject
      | some members =>
        if v.isTruthy then
          .chained (n.replace .inner (.obj (Entries.setDefault members "fuzzy" .empty)))
        else
          .shifted (n.replace .inner (.obj (Entries.erase members "fuzzy")))
            [.taken (n.path .inner ++ ["fuzzy"])]
  | fuzzyOption key =>
    let v := args.first
    match (n.valueAt .inner).members? with
    | none => .failed n .readsNonObject
    | some _ =>
      if v.isNull then n.readThrough (n.path .inner ++ ["fuzzy", key])
      else n.mergeSection .inner "fuzzy" fun n => .obj [(key, v.toJson n)]

end SuggestionMethod

end SearchBuilder
