/-!
# Double-precision numbers

A double is held as a sign and a *rank*: its place among the nonnegative doubles in order of
size, infinity last. Ranks make order and rounding plain arithmetic on natural numbers, and every
rank names exactly one magnitude, so equality of ranks is equality of doubles.

Every finite magnitude is a whole number of *quanta* of `2 ^ -1074`. `quanta` gives that number and
`nearestRank` goes back from any ratio of quanta, rounding to nearest with ties to even. All
arithmetic is exact in quanta and rounded once.
-/

namespace SearchBuilder

/-- The number of magnitudes in a binade. -/
def binade : Nat := Nat.pow 2 52

/-- The rank of infinity: 2047 binades of finite magnitudes lie below it. -/
def infinityRank : Nat := 2047 * binade

/-- A double: not a number, or a sign and the rank of a magnitude. -/
inductive Binary64 where
  | nan
  | signed (negative : Bool) (rank : Fin (infinityRank + 1))
  deriving DecidableEq, Repr

/-- The whole number nearest to `num / den`; a half goes to the even neighbour. -/
def roundHalfEven (num den : Nat) : Nat :=
  let whole := num / den
  let twice := 2 * (num % den)
  if twice < den then whole
  else if den < twice then whole + 1
  else whole + whole % 2

namespace Binary64

/-- The magnitude of a finite rank, in quanta: the ranks of the first two binades
count quanta, and each later binade doubles the step. -/
def quanta (rank : Nat) : Nat :=
  if rank < 2 * binade then rank
  else (binade + rank % binade) * Nat.pow 2 (rank / binade - 1)

/-- The rank nearest to `num / den` quanta, capped at infinity. A binade whose leading bit is
`2 ^ (52 + shift)` keeps 53 bits, and a carry out of it lands on the first rank of the next. -/
def nearestRank (num den : Nat) : Fin (infinityRank + 1) :=
  let shift := (num / den).log2 - 52
  let rank := shift * binade + roundHalfEven num (den * Nat.pow 2 shift)
  ⟨min rank infinityRank, by omega⟩

/-- One in quanta. -/
def unit : Nat := Nat.pow 2 1074

/-- The zero of a sign. -/
def zero (negative : Bool) : Binary64 := .signed negative ⟨0, by decide⟩

/-- The infinity of a sign. -/
def infinity (negative : Bool) : Binary64 := .signed negative ⟨infinityRank, by omega⟩

/-- Rounds a signed ratio of quanta. A zero result is positive. -/
def ofQuanta (num : Int) (den : Nat) : Binary64 := .signed (num < 0) (nearestRank num.natAbs den)

/-- Rounds the decimal `digits * 10 ^ exponent`. Exponents far outside the range of doubles are
answered without computing the power. -/
def ofDecimal (negative : Bool) (digits : Nat) (exponent : Int) : Binary64 :=
  if digits = 0 then zero negative
  else if 310 < exponent then infinity negative
  else if exponent + (digits.log2 + 1 : Nat) < -330 then zero negative
  else .signed negative <|
    nearestRank (digits * Nat.pow 10 exponent.toNat * unit) (Nat.pow 10 (-exponent).toNat)

/-- The double nearest to an integer, or `none` when that would be an infinity. -/
def ofInt? (i : Int) : Option Binary64 :=
  let rank := nearestRank (i.natAbs * unit) 1
  if rank.val = infinityRank then none else some (.signed (i < 0) rank)

/-- The double of a small natural number. -/
def ofNat (n : Nat) : Binary64 := .signed false (nearestRank (n * unit) 1)

/-- The value in quanta with its sign; infinities read as the magnitude that follows the largest
finite one. -/
def signedQuanta : Binary64 → Int
  | .nan => 0
  | .signed negative rank => if negative then -(quanta rank : Int) else quanta rank

/-- Whether the value is not a number. -/
def isNaN : Binary64 → Bool
  | .nan => true
  | .signed .. => false

/-- Whether the value is an infinity of either sign. -/
def isInfinite : Binary64 → Bool
  | .nan => false
  | .signed _ rank => rank.val = infinityRank

/-- Whether the sign is a minus. -/
def isNegative : Binary64 → Bool
  | .nan => false
  | .signed negative _ => negative

/-- Whether the value is a zero of either sign. -/
def isZero : Binary64 → Bool
  | .nan => false
  | .signed _ rank => rank.val = 0

/-! ## Order -/

/-- The place on the number line by which values other than `nan` compare; both zeros share one. -/
def place : Binary64 → Int
  | .nan => 0
  | .signed negative rank => if negative then -(rank.val : Int) else rank.val

/-- The order of doubles; `nan` is beside every value. -/
def lt (a b : Binary64) : Bool := !a.isNaN && !b.isNaN && a.place < b.place

/-- The order of doubles with equality. -/
def le (a b : Binary64) : Bool := !a.isNaN && !b.isNaN && a.place ≤ b.place

/-- Whether a double is exactly an integer of the given value. -/
def equalsInt (a : Binary64) (i : Int) : Bool :=
  !a.isNaN && !a.isInfinite && a.signedQuanta = i * (unit : Int)

/-- The greatest integer that a finite double reaches. -/
def floor (a : Binary64) : Int := a.signedQuanta / (unit : Int)

/-! ## Arithmetic -/

/-- The sum, rounded once. Zeros add up to the negative zero only if both are negative. -/
def add (a b : Binary64) : Binary64 :=
  if a.isNaN || b.isNaN then .nan
  else if a.isInfinite then
    if b.isInfinite && a.isNegative != b.isNegative then .nan else a
  else if b.isInfinite then b
  else if a.isZero && b.isZero then zero (a.isNegative && b.isNegative)
  else ofQuanta (a.signedQuanta + b.signedQuanta) 1

/-- The product, rounded once. -/
def mul (a b : Binary64) : Binary64 :=
  if a.isNaN || b.isNaN then .nan
  else
    let negative := a.isNegative != b.isNegative
    if a.isInfinite || b.isInfinite then
      if a.isZero || b.isZero then .nan else infinity negative
    else .signed negative <|
      nearestRank (a.signedQuanta.natAbs * b.signedQuanta.natAbs) unit

end Binary64

end SearchBuilder
