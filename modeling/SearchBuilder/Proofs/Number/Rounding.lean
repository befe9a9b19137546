import SearchBuilder.Number.Binary64

/-!
# Rounding to doubles

Rounding keeps the order of magnitudes (`Binary64.nearestRank_le`) and leaves a magnitude that a
double can hold as it is (`Binary64.freeRank_quanta`). Sums and products are computed exactly and
rounded once, so these two say how far they are from what they stand for. The whole numbers that no
double is near enough to are told by their size (`Binary64.ofInt?_eq_none_iff`).
-/

namespace SearchBuilder

/-! ## Nearest whole numbers -/

/-- Rounding gives the whole part or the number after it. -/
theorem roundHalfEven_bounds (num den : Nat) :
    num / den ≤ roundHalfEven num den ∧ roundHalfEven num den ≤ num / den + 1 := by
  unfold roundHalfEven
  dsimp only
  split
  · omega
  · split
    · omega
    · omega

/-- Rounding keeps the order. -/
theorem roundHalfEven_le {num num' : Nat} (h : num ≤ num') (den : Nat) :
    roundHalfEven num den ≤ roundHalfEven num' den := by
  have hbelow := (roundHalfEven_bounds num den).2
  have habove := (roundHalfEven_bounds num' den).1
  have hwhole : num / den ≤ num' / den := Nat.div_le_div_right h
  by_cases hsame : num / den = num' / den
  · -- In one unit the remainders are in the order of the numbers.
    have hrest : num % den ≤ num' % den := by
      have hnum := Nat.div_add_mod num den
      have hnum' := Nat.div_add_mod num' den
      rw [hsame] at hnum
      omega
    unfold roundHalfEven
    rw [hsame]
    dsimp only
    split <;> split <;> (try split) <;> (try split) <;> omega
  · omega

theorem roundHalfEven_scale (num den : Nat) {factor : Nat} (h : 0 < factor) :
    roundHalfEven (num * factor) (factor * den) = roundHalfEven num den := by
  have hrest : 2 * (num % den * factor) = factor * (2 * (num % den)) := by
    rw [Nat.mul_comm _ factor, Nat.mul_left_comm]
  unfold roundHalfEven
  rw [Nat.mul_comm factor den, Nat.mul_div_mul_right _ _ h, Nat.mul_mod_mul_right, hrest,
    Nat.mul_comm den factor]
  simp only [Nat.mul_lt_mul_left h]

theorem roundHalfEven_mul (whole : Nat) {den : Nat} (h : 0 < den) :
    roundHalfEven (whole * den) den = whole := by
  simp [roundHalfEven, Nat.mul_div_cancel _ h, h]

namespace Binary64

/-! ## Nearest ranks -/

/-- How many bits of a magnitude are rounded away. -/
def lostBits (num : Nat) : Nat := num.log2 - 52

/-- The rank nearest to a whole number of quanta, if ranks went on beyond infinity. -/
def freeRank (num : Nat) : Nat :=
  lostBits num * binade + roundHalfEven num (Nat.pow 2 (lostBits num))

theorem val_nearestRank (num : Nat) :
    (nearestRank num 1).val = min (freeRank num) infinityRank := by
  simp only [nearestRank, freeRank, lostBits, Nat.div_one, Nat.one_mul]

/-- Quanta that are given as a ratio of the same value. -/
theorem nearestRank_scale (num : Nat) {factor : Nat} (h : 0 < factor) :
    nearestRank (num * factor) factor = nearestRank num 1 := by
  simp only [nearestRank, Nat.mul_div_cancel _ h, Nat.div_one, Nat.one_mul,
    roundHalfEven_scale _ _ h]

theorem binade_eq : binade = Nat.pow 2 52 := rfl

/-- A magnitude keeps 53 bits at most. -/
theorem div_lostBits_lt (num : Nat) : num / Nat.pow 2 (lostBits num) < 2 * binade := by
  rw [Nat.pow_eq, Nat.div_lt_iff_lt_mul (Nat.two_pow_pos _)]
  have hlog : num < 2 ^ (num.log2 + 1) := Nat.lt_log2_self
  have hle : num.log2 + 1 ≤ 53 + lostBits num := by
    unfold lostBits
    omega
  have hbits : 2 ^ 53 = 2 * binade := by decide
  calc num < 2 ^ (num.log2 + 1) := hlog
    _ ≤ 2 ^ (53 + lostBits num) := Nat.pow_le_pow_right (by decide) hle
    _ = 2 * binade * 2 ^ lostBits num := by rw [Nat.pow_add, hbits]

/-- A magnitude of which bits are rounded away keeps 53 bits at least. -/
theorem binade_le_div_lostBits {num : Nat} (h : 0 < lostBits num) :
    binade ≤ num / Nat.pow 2 (lostBits num) := by
  rw [Nat.pow_eq, Nat.le_div_iff_mul_le (Nat.two_pow_pos _), binade_eq, Nat.pow_eq, ← Nat.pow_add]
  have hlog : 52 + lostBits num = num.log2 := by
    unfold lostBits at h ⊢
    omega
  have hnum : num ≠ 0 := by
    rintro rfl
    exact absurd h (by decide)
  rw [hlog]
  exact Nat.log2_self_le hnum

/-- More bits are lost of a larger magnitude. -/
theorem lostBits_le {num num' : Nat} (h : num ≤ num') : lostBits num ≤ lostBits num' := by
  refine Nat.sub_le_sub_right ?_ 52
  by_cases hnum : num = 0
  · rw [hnum]
    exact Nat.zero_le _
  · have hnum' : num' ≠ 0 := by omega
    exact (Nat.le_log2 hnum').2 (Nat.le_trans (Nat.log2_self_le hnum) h)

theorem freeRank_le {num num' : Nat} (h : num ≤ num') : freeRank num ≤ freeRank num' := by
  have hlost := lostBits_le h
  rcases Nat.lt_or_eq_of_le hlost with hlt | heq
  · -- A rounding of the smaller ends at most where the binade of the greater begins.
    have hbelow : roundHalfEven num (Nat.pow 2 (lostBits num)) ≤ 2 * binade := by
      have := (roundHalfEven_bounds num (Nat.pow 2 (lostBits num))).2
      have := div_lostBits_lt num
      omega
    have habove : binade ≤ roundHalfEven num' (Nat.pow 2 (lostBits num')) := by
      have := (roundHalfEven_bounds num' (Nat.pow 2 (lostBits num'))).1
      have := binade_le_div_lostBits (Nat.zero_lt_of_lt hlt)
      omega
    calc freeRank num
      _ ≤ lostBits num * binade + 2 * binade := Nat.add_le_add_left hbelow _
      _ = (lostBits num + 1) * binade + binade := by
        rw [Nat.succ_mul (lostBits num), Nat.add_assoc, Nat.two_mul]
      _ ≤ lostBits num' * binade + binade :=
        Nat.add_le_add_right (Nat.mul_le_mul_right _ hlt) _
      _ ≤ freeRank num' := Nat.add_le_add_left habove _
  · unfold freeRank
    rw [heq]
    exact Nat.add_le_add_left (roundHalfEven_le h _) _

/-- Rounding keeps the order of magnitudes. -/
theorem nearestRank_le {num num' : Nat} (h : num ≤ num') :
    (nearestRank num 1).val ≤ (nearestRank num' 1).val := by
  have hfree := freeRank_le h
  rw [val_nearestRank, val_nearestRank]
  omega

/-! ## Magnitudes that are held exactly -/

/-- What is lost of a magnitude is known from its binade. -/
theorem lostBits_mul_two_pow {mantissa : Nat} (hlow : binade ≤ mantissa)
    (hhigh : mantissa < 2 * binade) (shift : Nat) :
    lostBits (mantissa * Nat.pow 2 shift) = shift := by
  rw [Nat.pow_eq]
  have hlog : (mantissa * 2 ^ shift).log2 = 52 + shift := by
    have hpos : mantissa * 2 ^ shift ≠ 0 := by
      have := Nat.two_pow_pos shift
      have : 0 < binade := by decide
      exact Nat.mul_ne_zero (by omega) (by omega)
    refine (Nat.log2_eq_iff hpos).2 ⟨?_, ?_⟩
    · rw [Nat.pow_add]
      exact Nat.mul_le_mul_right _ hlow
    · rw [Nat.add_right_comm, Nat.pow_add]
      exact Nat.mul_lt_mul_of_pos_right hhigh (Nat.two_pow_pos shift)
  rw [lostBits, hlog, Nat.add_sub_cancel_left]

/-- The quanta of a rank beyond the first two binades, by its binade and its place there. -/
theorem quanta_eq (before : Nat) {place : Nat} (h : place < binade) :
    quanta ((before + 1) * binade + place) = (binade + place) * Nat.pow 2 before := by
  have hbinade : 0 < binade := by decide
  have hdiv : ((before + 1) * binade + place) / binade = before + 1 := by
    rw [Nat.mul_comm, Nat.mul_add_div hbinade, Nat.div_eq_of_lt h, Nat.add_zero]
  have hmod : ((before + 1) * binade + place) % binade = place := by
    rw [Nat.mul_add_mod_self_right, Nat.mod_eq_of_lt h]
  unfold quanta
  split
  · next hsmall =>
    -- The second binade counts single quanta as well.
    obtain rfl : before = 0 := by
      cases before with
      | zero => rfl
      | succ before =>
        have hgrow : 2 * binade ≤ (before + 1 + 1) * binade :=
          Nat.mul_le_mul_right _ (by omega)
        omega
    simp
  · rw [hdiv, hmod, Nat.add_sub_cancel]

theorem exists_binade {rank : Nat} (h : binade ≤ rank) :
    ∃ before place, place < binade ∧ rank = (before + 1) * binade + place := by
  have hbinade : 0 < binade := by decide
  obtain ⟨before, hbefore⟩ := Nat.exists_eq_add_of_le' ((Nat.one_le_div_iff hbinade).2 h)
  refine ⟨before, rank % binade, Nat.mod_lt _ hbinade, ?_⟩
  rw [← hbefore, Nat.mul_comm]
  exact (Nat.div_add_mod rank binade).symm

/-- A magnitude that a double can hold is held exactly. -/
theorem freeRank_quanta (rank : Nat) : freeRank (quanta rank) = rank := by
  have hround (whole shift : Nat) :
      roundHalfEven (whole * Nat.pow 2 shift) (Nat.pow 2 shift) = whole :=
    roundHalfEven_mul whole (Nat.two_pow_pos shift)
  by_cases hsmall : rank < binade
  · have hquanta : quanta rank = rank := if_pos (by omega)
    have hlost : lostBits rank = 0 := by
      have hlog : rank.log2 ≤ 52 := by
        by_cases hzero : rank = 0
        · rw [hzero]
          decide
        · exact Nat.le_of_lt ((Nat.log2_lt hzero).2 hsmall)
      exact Nat.sub_eq_zero_of_le hlog
    have hwhole := hround rank 0
    rw [Nat.pow_eq, Nat.pow_zero, Nat.mul_one] at hwhole
    rw [hquanta, freeRank, hlost, Nat.zero_mul, Nat.zero_add, hwhole]
  · obtain ⟨before, place, hplace, rfl⟩ := exists_binade (Nat.le_of_not_lt hsmall)
    have hlost : lostBits ((binade + place) * Nat.pow 2 before) = before :=
      lostBits_mul_two_pow (by omega) (by omega) before
    rw [quanta_eq before hplace, freeRank, hlost, hround, Nat.succ_mul, Nat.add_assoc]

theorem two_pow_mul (m e : Nat) : Nat.pow 2 m * Nat.pow 2 e = Nat.pow 2 (m + e) :=
  (Nat.pow_add 2 m e).symm

-- The exponent is generalized, so that nothing evaluates the power.
theorem two_pow_mul_unit (m : Nat) : Nat.pow 2 m * unit = Nat.pow 2 (m + 1074) := by
  unfold unit
  generalize 1074 = e
  exact two_pow_mul m e

theorem unit_pos : 0 < unit := by
  unfold unit
  generalize 1074 = e
  exact Nat.two_pow_pos e

/-- Powers of two are held exactly, up to infinity. -/
theorem quanta_two_pow (shift : Nat) :
    quanta ((shift + 1) * binade) = Nat.pow 2 (52 + shift) := by
  have hzero : 0 < binade := by decide
  have h := quanta_eq shift hzero
  simp only [Nat.add_zero] at h
  rw [h, binade_eq, two_pow_mul]

/-- The rank of a power of two of quanta that starts a binade. -/
theorem nearestRank_two_pow (shift : Nat) :
    (nearestRank (Nat.pow 2 (52 + shift)) 1).val = min ((shift + 1) * binade) infinityRank := by
  rw [val_nearestRank, ← quanta_two_pow, freeRank_quanta]

/-! ## Overflow -/

/-- The least whole number that rounds to infinity: half a step above the greatest double. -/
def overflow : Nat := Nat.pow 2 1024 - Nat.pow 2 970

theorem infinityRank_le_freeRank_overflow : infinityRank ≤ freeRank (overflow * unit) := by
  decide +kernel

theorem freeRank_lt_infinityRank_of_pred : freeRank ((overflow - 1) * unit) < infinityRank := by
  decide +kernel

/-- Exactly the whole numbers from `overflow` on, of either sign, have no double. -/
theorem ofInt?_eq_none_iff (i : Int) : ofInt? i = none ↔ overflow ≤ i.natAbs := by
  have hnone : ofInt? i = none ↔ infinityRank ≤ freeRank (i.natAbs * unit) := by
    unfold ofInt?
    dsimp only
    rw [val_nearestRank]
    split
    · refine iff_of_true rfl ?_
      omega
    · refine iff_of_false (Option.some_ne_none _) ?_
      omega
  rw [hnone]
  refine ⟨fun h => ?_, fun h => ?_⟩
  · refine Nat.le_of_not_lt fun hlt => ?_
    have hbelow : freeRank (i.natAbs * unit) ≤ freeRank ((overflow - 1) * unit) :=
      freeRank_le (Nat.mul_le_mul_right _ (Nat.le_sub_one_of_lt hlt))
    have := freeRank_lt_infinityRank_of_pred
    omega
  · exact Nat.le_trans infinityRank_le_freeRank_overflow (freeRank_le (Nat.mul_le_mul_right _ h))

end Binary64

end SearchBuilder
