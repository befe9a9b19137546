import SearchBuilder.Text.Hex

/-!
# Hexadecimal digits read back

A number that is written with a fixed count of digits reads back up to what does not fit, in small
letters and in capital ones.
-/

namespace SearchBuilder

theorem hexValue?_hexDigit (n : Nat) : hexValue? (hexDigit n) = some (n % 16) := by
  have hall : ∀ d < 16, hexValue? (Nat.digitChar d) = some d := by decide
  exact hall (n % 16) (Nat.mod_lt n (by decide))

theorem hexValue?_toUpper_hexDigit (n : Nat) :
    hexValue? (hexDigit n).toUpper = some (n % 16) := by
  have hall : ∀ d < 16, hexValue? (Nat.digitChar d).toUpper = some d := by decide
  exact hall (n % 16) (Nat.mod_lt n (by decide))

/-- What holds of the sixteen digits holds of every digit of a number. -/
theorem forall_mem_hexText {p : Char → Prop} (hdigit : ∀ d < 16, p (Nat.digitChar d))
    (width n : Nat) : ∀ c ∈ hexText width n, p c := by
  induction width generalizing n with
  | zero =>
    intro c hc
    cases hc
  | succ width ih =>
    intro c hc
    rcases List.mem_append.1 hc with hmem | hmem
    · exact ih (n / 16) c hmem
    · rw [List.mem_singleton.1 hmem]
      exact hdigit (n % 16) (Nat.mod_lt n (by decide))

/-- Reading is digit by digit, so it may change the case of each of them first. -/
theorem hexNumber?_map_hexText {f : Char → Char}
    (hf : ∀ n, hexValue? (f (hexDigit n)) = some (n % 16)) (width n : Nat) :
    hexNumber? ((hexText width n).map f) = some (n % Nat.pow 16 width) := by
  induction width generalizing n with
  | zero =>
    change _ = some (n % 1)
    rw [Nat.mod_one]
    rfl
  | succ width ih =>
    have hread := ih (n / 16)
    unfold hexNumber? at hread ⊢
    rw [hexText, List.map_append, List.foldlM_append, hread]
    have hsum : n / 16 % Nat.pow 16 width * 16 + n % 16 = n % Nat.pow 16 (width + 1) := by
      rw [Nat.pow_eq, Nat.pow_eq, Nat.pow_succ', Nat.mod_mul, Nat.mul_comm]
      omega
    simpa [hf] using hsum

theorem hexNumber?_hexText (width n : Nat) :
    hexNumber? (hexText width n) = some (n % Nat.pow 16 width) := by
  have hread := hexNumber?_map_hexText (f := id) hexValue?_hexDigit width n
  rwa [List.map_id] at hread

end SearchBuilder
