import SearchBuilder.Number.Binary64

/-!
# Pauses between attempts

After a failed attempt a client pauses before the next one. The pause starts at half a second,
doubles with each attempt, is jittered, and never exceeds eight seconds.
-/

namespace SearchBuilder.Backoff

/-- Half a second, the first pause. -/
def base : Binary64 := .ofDecimal false 5 (-1)

/-- The longest pause, in seconds. -/
def longest : Binary64 := .ofNat 8

/-- The pause after an attempt, counted from one, or `none` if `2 ^ (attempt - 1)` is too large for
a double. -/
def pause? (attempt : Nat) (jitter : Binary64) : Option Binary64 := do
  let factor ← Binary64.ofInt? (Nat.pow 2 (attempt - 1))
  let pause := (base.mul factor).add jitter
  return if longest.lt pause then longest else pause

end SearchBuilder.Backoff
