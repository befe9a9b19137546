import SearchBuilder.Client.Backoff
import SearchBuilder.Proofs.Number.Rounding

/-!
# Pauses that can be computed

The factor of a pause is a power of two, and a power of two below `2 ^ 1024` is a finite double. So
the pause after each of the first 1024 attempts can be computed (`Backoff.exists_pause?`);
after attempt 1025 it cannot (`Backoff.pause?_eq_none_iff`).
-/

namespace SearchBuilder

namespace Binary64

/-- The powers of two that a double can hold are those below `2 ^ 1024`. -/
theorem ofInt?_two_pow_eq_none_iff (m : Nat) :
    ofInt? (Nat.pow 2 m : Nat) = none ↔ 1024 ≤ m := by
  have hrank := nearestRank_two_pow (m + 1022)
  have hbinade : 0 < binade := Nat.pow_pos (by decide)
  have hle : infinityRank ≤ (m + 1022 + 1) * binade ↔ 1024 ≤ m := by
    rw [infinityRank, Nat.mul_le_mul_right_iff hbinade]
    omega
  have hlimit : min ((m + 1022 + 1) * binade) infinityRank = infinityRank ↔ 1024 ≤ m := by
    rw [← hle]
    omega
  have hquanta : m + 1074 = 52 + (m + 1022) := by omega
  rw [ofInt?, Int.natAbs_natCast, two_pow_mul_unit, hquanta, hrank]
  split
  · next h => simp only [hlimit.1 h]
  · next h =>
    simp only [reduceCtorEq, false_iff]
    exact fun hm => h (hlimit.2 hm)

end Binary64

namespace Backoff

/-- A pause can be computed as long as its factor is a double. -/
theorem pause?_eq_none_iff (attempt : Nat) (jitter : Binary64) :
    pause? attempt jitter = none ↔ 1025 ≤ attempt := by
  have h := Binary64.ofInt?_two_pow_eq_none_iff (attempt - 1)
  cases hfactor : Binary64.ofInt? (Nat.pow 2 (attempt - 1) : Nat) with
  | none =>
    have := h.1 hfactor
    simp only [pause?, hfactor, Option.bind_eq_bind, Option.bind_none, true_iff]
    omega
  | some factor =>
    have hm : ¬ 1024 ≤ attempt - 1 := fun hm => by
      rw [h.2 hm] at hfactor
      cases hfactor
    simp only [pause?, hfactor, Option.bind_eq_bind, Option.bind_some]
    simp only [Option.pure_def, reduceCtorEq, false_iff]
    omega

/-- The pause after each of the first 1024 attempts. -/
theorem exists_pause? {attempt : Nat} (h : attempt ≤ 1024) (jitter : Binary64) :
    ∃ pause, pause? attempt jitter = some pause := by
  cases hpause : pause? attempt jitter with
  | none =>
    have := (pause?_eq_none_iff attempt jitter).1 hpause
    omega
  | some pause => exact ⟨pause, rfl⟩

end Backoff

end SearchBuilder
