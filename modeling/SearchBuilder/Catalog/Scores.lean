import SearchBuilder.Catalog.Words
import SearchBuilder.Document.Operation

/-!
# Score functions

The methods and the construction of score functions. A filter and a weight stand beside the
function's own envelope; a bare function has nothing else.
-/

namespace SearchBuilder.ScoreKind

open Operation

/-- The options of every score function. -/
def shared : Methods :=
  [("filter", child .root "filter" .filter), ("weight", .accessor (.number .root "weight"))]

/-- The methods of a kind of its own. -/
def own : ScoreKind → Methods
  | generic | bare => []
  | boostFactor => [("boost", option .root "boost_factor")]
  | script => options .body ["script", "lang", "params"]
  | random => options .body ["seed"]
  | fieldValue =>
    ("modifier", choice .body "modifier" Words.modifiers) :: options .body ["field", "factor"]
  | decay =>
    [("gauss", .decay (.choose "gauss")), ("exp", .decay (.choose "exp")),
      ("linear", .decay (.choose "linear")), ("curve", .decay .current),
      ("field", .field .rename), ("origin", .geo .origin),
      ("multi_value_mode", choice .body "multi_value_mode" Words.multiValueModes)] ++
    options .inner ["scale", "offset", "decay"]

/-- The methods of a kind, besides those that every node has. -/
def methods (k : ScoreKind) : Methods := k.own ++ shared

/-- A score function with an envelope. -/
def node (k : ScoreKind) (slot : String) (body : Entries Json) : Node :=
  .envelope (.score k) slot body

/-- A score function without one. -/
def bareNode (k : ScoreKind) (members : Entries Json) : Node :=
  { kind := .score k, fragment := .obj members }

/-- Builds a score function from its arguments. -/
def build (k : ScoreKind) (args : Arguments) : Outcome Node :=
  let v := args.first
  let empty := k.bareNode []
  match k with
  | generic => .chained (if v.isNull then empty else k.node v.name [])
  | bare => .chained empty
  | boostFactor => .chained (k.bareNode [("boost_factor", v.toJson empty)])
  | script => (option .body "script").run (k.node "script_score" []) (.one v)
  | random => .chained (k.node "random_score" [])
  | fieldValue => .chained (k.node "field_value_factor" [("field", v.toJson empty)])
  | decay => .chained (.nestedEnvelope (.score k) "gauss" v.name [])

end SearchBuilder.ScoreKind
