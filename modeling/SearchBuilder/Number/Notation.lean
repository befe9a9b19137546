import SearchBuilder.Number.Shortest

/-!
# Written numbers

How doubles and integers are written. A `Layout` holds the decisions of one written form: which
numbers are written positionally, and the names of the values that have no digits. `Layout.json`
is the form of documents and `Layout.display` the one of messages and URL parameters; they differ
in the names only.
-/

namespace SearchBuilder

/-- The decisions of one written form of doubles. -/
structure Layout where
  /-- The least leading exponent that is written positionally. -/
  leastPositional : Int
  /-- The greatest leading exponent that is written positionally. -/
  greatestPositional : Int
  /-- The least number of digits of a written exponent. -/
  exponentWidth : Nat
  nan : String
  infinity : String

/-- The digits of a natural number. -/
def natText (n : Nat) : List Char := Nat.toDigits 10 n

/-- The digits of an integer, with a minus sign where it is negative. -/
def intText (i : Int) : List Char :=
  if i < 0 then '-' :: natText i.natAbs else natText i.natAbs

/-- Pads with zeros on the left. -/
def padZeros (width : Nat) (digits : List Char) : List Char :=
  List.replicate (width - digits.length) '0' ++ digits

namespace Layout

/-- Documents name the values without digits as scripts do. -/
def json : Layout :=
  { leastPositional := -4, greatestPositional := 15, exponentWidth := 2
    nan := "NaN", infinity := "Infinity" }

/-- Messages and URL parameters use short lower-case names. -/
def display : Layout := { json with nan := "nan", infinity := "inf" }

/-- Digits with a point after the first `lead + 1` of them; a number without a fraction ends in
`.0`, one below one starts with `0.`. -/
def positional (digits : List Char) (lead : Int) : List Char :=
  if lead < 0 then
    '0' :: '.' :: (List.replicate ((-lead).toNat - 1) '0' ++ digits)
  else
    let whole := lead.toNat + 1
    let padded := digits ++ List.replicate (whole - digits.length) '0'
    let fraction := padded.drop whole
    padded.take whole ++ '.' :: (if fraction.isEmpty then ['0'] else fraction)

/-- One digit before the point and a signed exponent after the rest. -/
def scientific (layout : Layout) (digits : List Char) (lead : Int) : List Char :=
  let fraction := digits.drop 1
  digits.take 1 ++ (if fraction.isEmpty then [] else '.' :: fraction) ++
    'e' :: (if lead < 0 then '-' else '+') ::
      padZeros layout.exponentWidth (natText lead.natAbs)

/-- A finite magnitude. -/
def magnitude (layout : Layout) (rank : Nat) : List Char :=
  if rank = 0 then ['0', '.', '0']
  else
    let decimal := Binary64.shortest rank
    let digits := natText decimal.digits
    let lead := decimal.leadingExponent
    if layout.leastPositional ≤ lead && lead ≤ layout.greatestPositional then
      positional digits lead
    else layout.scientific digits lead

/-- A double in the written form of a layout. -/
def text (layout : Layout) : Binary64 → List Char
  | .nan => layout.nan.toList
  | .signed negative rank =>
    let digits :=
      if rank.val = infinityRank then layout.infinity.toList else layout.magnitude rank.val
    if negative then '-' :: digits else digits

end Layout

/-- A double with a fixed number of places; a half goes to the even neighbour. -/
def Binary64.fixedText (places : Nat) : Binary64 → List Char
  | .nan => Layout.display.nan.toList
  | .signed negative rank =>
    let digits :=
      if rank.val = infinityRank then Layout.display.infinity.toList
      else
        let scaled := natText (roundHalfEven (quanta rank.val * Nat.pow 10 places) unit)
        let padded := padZeros (places + 1) scaled
        let whole := padded.length - places
        padded.take whole ++ '.' :: padded.drop whole
    if negative then '-' :: digits else digits

end SearchBuilder
