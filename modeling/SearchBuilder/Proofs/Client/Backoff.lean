import SearchBuilder.Proofs.Client.Pause

/-!
# The length of pauses

A pause is half a second, doubled with each attempt after the first, and the jitter, up to eight
seconds (`Backoff.pause?_eq`). The sum is exact until it is rounded to a double once. So a pause
lies between half a second and eight seconds (`Backoff.base_le_pause`, `Backoff.pause_le_longest`),
and for a constant jitter it never gets shorter (`Backoff.pause_le_pause`). All of this holds of the
pauses that can be computed.
-/

namespace SearchBuilder

namespace Binary64

/-! ## Doubles that are not negative -/

theorem lt_signed {a b : Fin (infinityRank + 1)} :
    (signed false a).lt (signed false b) = true ↔ a.val < b.val := by
  simp [lt, isNaN, place]

theorem le_signed {a b : Fin (infinityRank + 1)} :
    (signed false a).le (signed false b) = true ↔ a.val ≤ b.val := by
  simp [le, isNaN, place]

theorem ofQuanta_natCast (num : Nat) : ofQuanta num 1 = .signed false (nearestRank num 1) := by
  have hsign : ¬ (num : Int) < 0 := by omega
  simp [ofQuanta, hsign]

theorem signedQuanta_nonneg {x : Binary64} (h : (zero false).le x = true) :
    0 ≤ x.signedQuanta := by
  cases x with
  | nan => cases h
  | signed negative rank =>
    cases negative with
    | false => simp [signedQuanta]
    | true =>
      have hplace : (0 : Int) ≤ -(rank.val : Int) :=
        of_decide_eq_true (Bool.and_eq_true_iff.1 h).2
      have hrank : rank.val = 0 := by omega
      have hzero : quanta 0 = 0 := by decide
      simp [signedQuanta, hrank, hzero]

theorem isInfinite_signed {negative : Bool} {rank : Fin (infinityRank + 1)}
    (h : rank.val ≠ infinityRank) : (signed negative rank).isInfinite = false :=
  decide_eq_false h

theorem isZero_signed {negative : Bool} {rank : Fin (infinityRank + 1)} (h : rank.val ≠ 0) :
    (signed negative rank).isZero = false :=
  decide_eq_false h

theorem signedQuanta_signed {rank : Fin (infinityRank + 1)} {num : Nat}
    (h : quanta rank.val = num) : (signed false rank).signedQuanta = num := by
  simp only [signedQuanta, h, Bool.false_eq_true, if_false]

/-- A product of finite doubles is rounded once. -/
theorem mul_of_finite {a b : Fin (infinityRank + 1)} (ha : a.val ≠ infinityRank)
    (hb : b.val ≠ infinityRank) : (signed false a).mul (signed false b) =
      .signed false (nearestRank (quanta a.val * quanta b.val) unit) := by
  simp [mul, isNaN, isInfinite, isNegative, signedQuanta, ha, hb]

/-- The sum of finite doubles of which one is no zero. -/
theorem add_of_finite {x y : Binary64} (hx : x.isNaN = false) (hy : y.isNaN = false)
    (hfinite : x.isInfinite = false) (hfinite' : y.isInfinite = false) (hzero : x.isZero = false) :
    x.add y = ofQuanta (x.signedQuanta + y.signedQuanta) 1 := by
  simp [add, hx, hy, hfinite, hfinite', hzero]

/-- The power of two that a whole number is, as a double. -/
theorem ofInt?_two_pow {m : Nat} (h : m < 1024) :
    ∃ rank, ofInt? (Nat.pow 2 m : Nat) = some (.signed false rank) ∧
      rank.val ≠ infinityRank ∧ quanta rank.val = Nat.pow 2 (m + 1074) := by
  have hquanta : m + 1074 = 52 + (m + 1022) := by omega
  have hrank := nearestRank_two_pow (m + 1022)
  have hbound : (m + 1022 + 1) * binade < infinityRank :=
    Nat.mul_lt_mul_of_pos_right (by omega) (by decide)
  rw [Nat.min_eq_left (Nat.le_of_lt hbound)] at hrank
  have hsign : ¬ ((Nat.pow 2 m : Nat) : Int) < 0 := by omega
  refine ⟨nearestRank (Nat.pow 2 (52 + (m + 1022))) 1, ?_, by omega, ?_⟩
  · rw [ofInt?, Int.natAbs_natCast, two_pow_mul_unit, hquanta]
    simp only [hrank, Nat.ne_of_lt hbound, if_false, hsign, decide_false]
  · rw [hrank, quanta_two_pow, hquanta]

end Binary64

namespace Backoff

open Binary64

/-! ## Jitters -/

/-- What is added to a pause lies between zero and three tenths of a second. -/
structure IsJitter (jitter : Binary64) : Prop where
  nonneg : (Binary64.zero false).le jitter = true
  bounded : jitter.le (.ofDecimal false 3 (-1)) = true

theorem IsJitter.isNaN {jitter : Binary64} (h : IsJitter jitter) : jitter.isNaN = false := by
  cases jitter with
  | nan => cases h.bounded
  | signed negative rank => rfl

theorem IsJitter.isInfinite {jitter : Binary64} (h : IsJitter jitter) :
    jitter.isInfinite = false := by
  cases jitter with
  | nan => cases h.bounded
  | signed negative rank =>
    have hbound : (ofDecimal false 3 (-1)).place < infinityRank := by decide +kernel
    have hlow := h.nonneg
    have hhigh := h.bounded
    simp only [le, Bool.and_eq_true, decide_eq_true_eq] at hlow hhigh
    have hplace : (signed negative rank).place < infinityRank := by omega
    have hpositive : 0 ≤ (signed negative rank).place := hlow.2
    rw [Binary64.isInfinite, decide_eq_false_iff_not]
    intro hrank
    cases negative with
    | false =>
      have hsame : (signed false rank).place = rank.val := rfl
      omega
    | true =>
      have hsame : (signed true rank).place = -rank.val := rfl
      have hpos : 0 < infinityRank := by decide
      omega

/-! ## Sums -/

/-- Half a second in quanta. -/
def halfSecond : Nat := Nat.pow 2 1073

/-- Half a second, doubled with each attempt after the first, and the jitter: exact in quanta, and
rounded once. -/
def sum (attempt : Nat) (jitter : Binary64) : Binary64 :=
  .ofQuanta ((Nat.pow 2 (attempt - 1) * halfSecond : Nat) + jitter.signedQuanta) 1

theorem base_eq : base = .signed false (nearestRank halfSecond 1) := by decide +kernel

theorem longest_eq : longest = .signed false (nearestRank (Nat.pow 2 4 * halfSecond) 1) := by
  decide +kernel

theorem two_pow_mul_halfSecond (m : Nat) : Nat.pow 2 m * halfSecond = Nat.pow 2 (m + 1073) := by
  unfold halfSecond
  generalize 1073 = e
  exact two_pow_mul m e

/-- Half a second is exact, doubled as often as pauses can be computed. -/
theorem doubled_exact {times : Nat} (h : times < 1024) :
    let rank := nearestRank (Nat.pow 2 times * halfSecond) 1
    rank.val ≠ infinityRank ∧ rank.val ≠ 0 ∧ quanta rank.val = Nat.pow 2 times * halfSecond := by
  have hexponent : times + 1073 = 52 + (times + 1021) := by omega
  have hbound : (times + 1021 + 1) * binade < infinityRank :=
    Nat.mul_lt_mul_of_pos_right (by omega) (by decide)
  have hpos : 0 < (times + 1021 + 1) * binade := Nat.mul_pos (by omega) (by decide)
  have hrank := nearestRank_two_pow (times + 1021)
  rw [Nat.min_eq_left (Nat.le_of_lt hbound)] at hrank
  dsimp only
  rw [two_pow_mul_halfSecond, hexponent]
  rw [hrank, quanta_two_pow]
  exact ⟨Nat.ne_of_lt hbound, Nat.ne_of_gt hpos, rfl⟩

/-- Half a second times a power of two is rounded once. -/
theorem base_mul {times : Nat} {factor : Fin (infinityRank + 1)}
    (hfinite : factor.val ≠ infinityRank)
    (hfactor : quanta factor.val = Nat.pow 2 (times + 1074)) :
    base.mul (.signed false factor) =
      .signed false (nearestRank (Nat.pow 2 times * halfSecond) 1) := by
  have hfirst : 0 < 1024 := by decide
  obtain ⟨hbase, -, hquanta⟩ := doubled_exact hfirst
  rw [Nat.pow_eq, Nat.pow_zero, Nat.one_mul] at hbase hquanta
  have hproduct : halfSecond * Nat.pow 2 (times + 1074) = Nat.pow 2 times * halfSecond * unit := by
    rw [← two_pow_mul_unit, ← Nat.mul_assoc, Nat.mul_comm halfSecond]
  rw [base_eq, mul_of_finite hbase hfinite, hquanta, hfactor, hproduct,
    nearestRank_scale _ unit_pos]

/-- A pause and its draw are added exactly and rounded once. -/
theorem sum_eq {attempt : Nat} {jitter : Binary64} (hjitter : IsJitter jitter) :
    sum attempt jitter = .signed false
      (nearestRank (Nat.pow 2 (attempt - 1) * halfSecond + jitter.signedQuanta.natAbs) 1) := by
  have hextra := Int.natAbs_of_nonneg (signedQuanta_nonneg hjitter.nonneg)
  rw [sum, ← ofQuanta_natCast, Int.natCast_add, hextra]

/-- No pause is shorter than the first one without a draw. -/
theorem base_le_sum {attempt : Nat} {jitter : Binary64} (hjitter : IsJitter jitter) :
    base.le (sum attempt jitter) = true := by
  rw [sum_eq hjitter, base_eq, le_signed]
  refine nearestRank_le ?_
  calc halfSecond
    _ ≤ Nat.pow 2 (attempt - 1) * halfSecond := Nat.le_mul_of_pos_left _ (Nat.two_pow_pos _)
    _ ≤ _ := Nat.le_add_right _ _

/-- Later pauses are not shorter, for the same draw. -/
theorem sum_le_sum {attempt later : Nat} {jitter : Binary64} (hjitter : IsJitter jitter)
    (h : attempt ≤ later) : (sum attempt jitter).le (sum later jitter) = true := by
  rw [sum_eq hjitter, sum_eq hjitter, le_signed]
  refine nearestRank_le (Nat.add_le_add_right (Nat.mul_le_mul_right _ ?_) _)
  exact Nat.pow_le_pow_right (by decide) (by omega)

/-! ## Pauses -/

/-- The sum, or the longest pause if that is less. -/
def pause (attempt : Nat) (jitter : Binary64) : Binary64 :=
  if longest.lt (sum attempt jitter) then longest else sum attempt jitter

/-- There is a pause after each of the first 1024 attempts. -/
theorem pause?_eq {attempt : Nat} (hpos : 1 ≤ attempt) (h : attempt ≤ 1024) {jitter : Binary64}
    (hjitter : IsJitter jitter) : pause? attempt jitter = some (pause attempt jitter) := by
  have hattempt : attempt - 1 < 1024 := by omega
  obtain ⟨factor, hfactor, hfinite, hquanta⟩ := ofInt?_two_pow hattempt
  obtain ⟨hinfinite, hzero, hexact⟩ := doubled_exact hattempt
  have hdoubled := signedQuanta_signed hexact
  have hadd : (base.mul (.signed false factor)).add jitter = sum attempt jitter := by
    rw [base_mul hfinite hquanta, add_of_finite rfl hjitter.isNaN (isInfinite_signed hinfinite)
      hjitter.isInfinite (isZero_signed hzero), hdoubled, sum]
  simp only [pause?, pause, hfactor, Option.bind_eq_bind, Option.bind_some, hadd, Option.pure_def]

variable {attempt later : Nat} {jitter : Binary64}

theorem base_le_pause (hjitter : IsJitter jitter) : base.le (pause attempt jitter) = true := by
  unfold pause
  split
  · decide +kernel
  · exact base_le_sum hjitter

theorem pause_le_longest (hjitter : IsJitter jitter) :
    (pause attempt jitter).le longest = true := by
  unfold pause
  split
  · decide +kernel
  · next h =>
    rw [sum_eq hjitter, longest_eq, lt_signed] at h
    rw [sum_eq hjitter, longest_eq, le_signed]
    exact Nat.le_of_not_lt h

theorem pause_le_pause (hjitter : IsJitter jitter) (h : attempt ≤ later) :
    (pause attempt jitter).le (pause later jitter) = true := by
  by_cases hlater : longest.lt (sum later jitter) = true
  · rw [pause.eq_def later, if_pos hlater]
    exact pause_le_longest hjitter
  · have hsum := sum_le_sum hjitter h
    have hattempt : ¬ longest.lt (sum attempt jitter) = true := by
      rw [sum_eq hjitter, longest_eq, lt_signed] at hlater ⊢
      rw [sum_eq hjitter, sum_eq hjitter, le_signed] at hsum
      omega
    rw [pause, pause, if_neg hattempt, if_neg hlater]
    exact hsum

end Backoff

end SearchBuilder
