import SearchBuilder.Json.Parser
import SearchBuilder.Proofs.Json.Literal
import Mathlib.Data.List.TakeDrop

/-!
# Integers read back

An integer of any size is printed in decimal digits and read back from them
(`Json.readValue_intText`), as long as what stands behind it ends a value: nothing, or one of the
marks that follow values in lists and objects.
-/

namespace SearchBuilder.Json

/-- What may stand behind a value: nothing, or a mark that ends it. -/
def Ends (rest : List Char) : Prop := ∀ c ∈ rest.head?, c = ',' ∨ c = ']' ∨ c = '}'

theorem Ends.cases {rest : List Char} (h : Ends rest) :
    rest = [] ∨ ∃ c tail, rest = c :: tail ∧ (c = ',' ∨ c = ']' ∨ c = '}') := by
  cases rest with
  | nil => exact .inl rfl
  | cons c tail => exact .inr ⟨c, tail, rfl, h c rfl⟩

theorem digitsValue_natText (n : Nat) : digitsValue (natText n) = n := by
  have hfold : digitsValue (natText n) = Nat.ofDigitChars 10 (natText n) 0 := by
    unfold digitsValue Nat.ofDigitChars
    congr 1
    funext value c
    rw [Nat.mul_comm]
  rw [hfold, natText, Nat.ofDigitChars_ten_toDigits]

theorem isDigit_of_mem_natText {n : Nat} {c : Char} (h : c ∈ natText n) : c.isDigit = true :=
  Nat.isDigit_of_mem_toDigits (by decide) (by decide) h

theorem natText_ne_nil (n : Nat) : natText n ≠ [] := Nat.toDigits_ne_nil

/-- A number other than zero starts with another digit than zero. -/
theorem exists_natText {n : Nat} (hn : n ≠ 0) : ∃ c rest, natText n = c :: rest ∧ c ≠ '0' := by
  induction n using Nat.strongRecOn with
  | ind n ih =>
    have hdigits := Nat.toDigits_eq_if (b := 10) (n := n) (by decide)
    unfold natText
    split at hdigits
    · next hlt =>
      refine ⟨n.digitChar, [], hdigits, ?_⟩
      have hall : ∀ d < 10, d ≠ 0 → Nat.digitChar d ≠ '0' := by decide
      exact hall n hlt hn
    · next hge =>
      obtain ⟨c, rest, hrest, hc⟩ := ih (n / 10) (by omega) (by omega)
      refine ⟨c, rest ++ [(n % 10).digitChar], ?_, hc⟩
      rw [hdigits, show Nat.toDigits 10 (n / 10) = c :: rest from hrest]
      rfl

theorem span_isDigit {digits rest : List Char} (hdigits : ∀ c ∈ digits, c.isDigit = true)
    (hrest : Ends rest) : (digits ++ rest).span Char.isDigit = (digits, rest) := by
  rw [List.span_eq_takeWhile_dropWhile, List.takeWhile_append_of_pos hdigits,
    List.dropWhile_append_of_pos hdigits]
  rcases hrest.cases with rfl | ⟨c, tail, rfl, rfl | rfl | rfl⟩ <;> simp

theorem readWhole_natText (n : Nat) {rest : List Char} (hrest : Ends rest) :
    readWhole (natText n ++ rest) = some (natText n, rest) := by
  by_cases hn : n = 0
  · subst hn
    rfl
  · obtain ⟨c, tail, htext, hc⟩ := exists_natText hn
    have hdigit : c.isDigit = true := isDigit_of_mem_natText (n := n) (by simp [htext])
    have hspan := span_isDigit (fun _ h => isDigit_of_mem_natText (n := n) h) hrest
    rw [htext] at hspan ⊢
    rw [List.cons_append, readWhole, if_pos hdigit]
    · exact congrArg some hspan
    · exact hc

theorem readFraction_of_ends {rest : List Char} (h : Ends rest) : readFraction rest = none := by
  rcases h.cases with rfl | ⟨c, tail, rfl, rfl | rfl | rfl⟩ <;> rfl

theorem readExponent_of_ends {rest : List Char} (h : Ends rest) : readExponent rest = none := by
  rcases h.cases with rfl | ⟨c, tail, rfl, rfl | rfl | rfl⟩ <;> rfl

theorem readNumber_intText (i : Int) {rest : List Char} (hrest : Ends rest) :
    readNumber (intText i ++ rest) = .ok (.int i, rest) := by
  have hwhole := readWhole_natText i.natAbs hrest
  have hfraction := readFraction_of_ends hrest
  have hexponent := readExponent_of_ends hrest
  have hvalue := digitsValue_natText i.natAbs
  unfold intText
  split
  · next hneg =>
    have hsize : -(i.natAbs : Int) = i := by omega
    generalize i.natAbs = size at hwhole hvalue hsize
    simp [readNumber, hwhole, hfraction, hexponent, hvalue, hsize]
  · next hpos =>
    have hsize : (i.natAbs : Int) = i := by omega
    have hsign : ∀ tail, natText i.natAbs ++ rest = '-' :: tail → False := by
      intro tail heq
      obtain ⟨c, digits, htext⟩ := List.exists_cons_of_ne_nil (natText_ne_nil i.natAbs)
      have hdigit : c.isDigit = true := isDigit_of_mem_natText (n := i.natAbs) (by simp [htext])
      rw [htext] at heq
      cases heq
      cases hdigit
    simp [readNumber, hwhole, hfraction, hexponent, hvalue, hsize]

/-- An integer starts with a minus sign or a digit. -/
theorem exists_intText (i : Int) :
    ∃ c tail, intText i = c :: tail ∧ (c = '-' ∨ c.isDigit = true) := by
  unfold intText
  split
  · exact ⟨'-', _, rfl, .inl rfl⟩
  · obtain ⟨c, tail, htext⟩ := List.exists_cons_of_ne_nil (natText_ne_nil i.natAbs)
    exact ⟨c, tail, htext, .inr (isDigit_of_mem_natText (n := i.natAbs) (by simp [htext]))⟩

theorem isPrintable_intText (i : Int) : ∀ c ∈ intText i, IsPrintable c := by
  intro c hc
  have hdigit (h : c ∈ natText i.natAbs) : IsPrintable c := by
    have hc := isDigit_of_mem_natText h
    simp only [Char.isDigit, Bool.and_eq_true, decide_eq_true_eq] at hc
    exact ⟨Nat.le_trans (by decide) (UInt32.le_iff_toNat_le.1 hc.1),
      Nat.lt_of_le_of_lt (UInt32.le_iff_toNat_le.1 hc.2) (by decide)⟩
  unfold intText at hc
  split at hc
  · rcases List.mem_cons.1 hc with rfl | hc
    · decide
    · exact hdigit hc
  · exact hdigit hc

theorem readValue_intText (i : Int) (budget : Nat) {rest : List Char} (hrest : Ends rest) :
    readValue (budget + 1) (intText i ++ rest) = .ok (.int i, rest) := by
  obtain ⟨c, tail, htext, hc⟩ := exists_intText i
  have hne {d : Char} (hd : d ≠ '-') (hdigit : d.isDigit = false) :
      ∀ other, intText i ++ rest = d :: other → False := by
    intro other heq
    rw [htext] at heq
    cases heq
    rcases hc with rfl | hc
    · exact hd rfl
    · exact Bool.false_ne_true (hdigit.symm.trans hc)
  rw [readValue.eq_8 _ _ (hne (by decide) rfl) (hne (by decide) rfl) (hne (by decide) rfl)
    (fun _ => hne (by decide) rfl _) (fun _ => hne (by decide) rfl _)
    (fun _ => hne (by decide) rfl _)]
  exact readNumber_intText i hrest

end SearchBuilder.Json
