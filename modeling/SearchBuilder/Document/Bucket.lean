import SearchBuilder.Document.Accessor

/-!
# Bucket methods

The settings of aggregations and facets that take several arguments: patterns with flags, bucket
orders, bounds and ranges. They are stored under the type of the aggregation. An unknown direction
of an order means `desc`.
-/

namespace SearchBuilder

/-- A method of an aggregation or facet that takes several arguments. -/
inductive BucketMethod where
  /-- A pattern with optional flags, stored as one object. -/
  | pattern (key : String)
  /-- A pattern with optional flags, stored as two options. -/
  | regex
  /-- The key that buckets are ordered by, and the direction. -/
  | order
  /-- The bounds that the buckets reach at least. -/
  | bounds
  /-- One more range. -/
  | range
  /-- Sub-aggregations, which a metric has none of. -/
  | noSubAggregations
  deriving DecidableEq, Repr

namespace BucketMethod

/-- The pairs whose argument is given. -/
def given (n : Node) (pairs : List (String × Argument)) : Entries Json :=
  pairs.filterMap fun (key, v) => if v.isNull then none else some (key, v.toJson n)

/-- The direction of an order, with the message logged if it is unknown. -/
def direction (v : Argument) : Except Fault (String × List Notice) :=
  if !v.isTruthy then .ok ("desc", [])
  else
    match v.text? with
    | none => .error .directionNotText
    | some word =>
      let folded := lower word
      if folded = "asc" || folded = "desc" then .ok (folded, [])
      else .ok ("desc", [.unknownDirection folded])

/-- Runs a method on an aggregation or facet. -/
def run (m : BucketMethod) (n : Node) (args : Arguments) : Outcome Node :=
  match m with
  | pattern key =>
    let v := args.first ["flags"]
    if v.isNull then n.readOption .inner key
    else
      n.writeOption .inner key <| .obj <|
        ("pattern", v.toJson n) :: given n [("flags", args.get 1 "flags")]
  | regex =>
    let v := args.first ["flags"]
    let flags := args.get 1 "flags"
    if v.isNull then n.readOption .inner "regex"
    else
      (n.writeOption .inner "regex" (v.toJson n)).andThen fun n =>
        if flags.isNull then .chained n else n.writeOption .inner "regex_flags" (flags.toJson n)
  | order =>
    let v := args.first ["direction"]
    if v.isNull then n.readOption .inner "order"
    else
      match direction (args.get 1 "direction") with
      | .error fault => .failed n fault
      | .ok (word, notices) =>
        let written := n.writeOption .inner "order" (.obj [(v.name, .str word)])
        { written with notices := notices ++ written.notices }
  | bounds =>
    let low := args.get 0 "minimum"
    let high := args.get 1 "maximum"
    if low.isNull && high.isNull then n.readOption .inner "extended_bounds"
    else n.writeOption .inner "extended_bounds" (.obj (given n [("min", low), ("max", high)]))
  | range =>
    let low := args.get 0 "lower"
    let high := args.get 1 "upper"
    if low.isNull && high.isNull then n.readOption .inner "ranges"
    else
      n.appendItem .inner "ranges" fun n =>
        .obj (given n [("from", low), ("to", high), ("key", args.get 2 "key")])
  | noSubAggregations =>
    if args.first.isNull then .value n .null
    else .refused n (.noSubAggregations n.kind.name)

end BucketMethod

end SearchBuilder
