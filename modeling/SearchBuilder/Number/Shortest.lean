import SearchBuilder.Number.Binary64

/-!
# Shortest decimals

`shortest` finds, for a finite magnitude other than zero, the decimal with the fewest digits that
rounds back to it; of several with that many digits it takes the nearest, and of two equally near
the one with an even last digit. For each count of digits only the two neighbours of the value on
that decimal grid need a look: a grid with any point that rounds back has one among them.
-/

namespace SearchBuilder

/-- The number `digits * 10 ^ exponent`. -/
structure Decimal where
  digits : Nat
  exponent : Int
  deriving DecidableEq, Repr

/-- How many decimal digits a natural number has; zero has one. -/
def decimalLength (n : Nat) : Nat :=
  if n < 10 then 1 else decimalLength (n / 10) + 1

namespace Decimal

/-- Drops trailing zeros. -/
def trim (d : Decimal) : Decimal :=
  if h : d.digits ≠ 0 ∧ d.digits % 10 = 0 then
    trim ⟨d.digits / 10, d.exponent + 1⟩
  else d
termination_by d.digits
decreasing_by omega

/-- The exponent of the first digit, as in scientific notation. -/
def leadingExponent (d : Decimal) : Int := d.exponent + (decimalLength d.digits : Int) - 1

end Decimal

namespace Binary64

/-- The decimal exponent of the leading digit of a magnitude given in quanta. Scaling by
`10 ^ 400` brings even the smallest magnitude above one. -/
def leadingExponent (quanta : Nat) : Int :=
  (decimalLength (quanta * Nat.pow 10 400 / unit) : Int) - 401

/-- Whether a decimal rounds to the magnitude of a rank. -/
def readsBack (rank : Nat) (d : Decimal) : Bool :=
  let num := d.digits * Nat.pow 10 d.exponent.toNat * unit
  (nearestRank num (Nat.pow 10 (-d.exponent).toNat)).val = rank

/-- The two neighbours of a rank's magnitude on the grid of `10 ^ exponent`, the nearer first. -/
def neighbours (rank : Nat) (exponent : Int) : Decimal × Decimal :=
  let num := quanta rank * Nat.pow 10 (-exponent).toNat
  let den := unit * Nat.pow 10 exponent.toNat
  let below := num / den
  let nearest := roundHalfEven num den
  (⟨nearest, exponent⟩, ⟨if nearest = below then below + 1 else below, exponent⟩)

/-- The neighbour on a grid that rounds back to a rank, if one does. -/
def onGrid (rank : Nat) (exponent : Int) : Option Decimal :=
  let (nearer, other) := neighbours rank exponent
  [nearer, other].find? (readsBack rank)

/-- The shortest decimal that rounds to a rank. Where no grid of fewer digits has one, the nearest
decimal of seventeen digits does. -/
def shortest (rank : Nat) : Decimal :=
  let lead := leadingExponent (quanta rank)
  let found := (List.range 16).findSome? fun (count : Nat) => onGrid rank (lead - count)
  (found.getD (neighbours rank (lead - 16)).1).trim

end Binary64

end SearchBuilder
