import SearchBuilder.Json.StringLiteral
import SearchBuilder.Proofs.Text.Hex

/-!
# String literals read back

A text that is written as a literal reads back as it was, whatever its characters are
(`Json.readLiteral_literal`), and the literal is in printable ASCII. Reading goes through UTF-16
units: a character outside of the basic plane is written as a surrogate pair, which
`joinSurrogates` joins again, and no other character has a surrogate among its units.
-/

namespace SearchBuilder

/-- A printable character of ASCII. -/
def IsPrintable (c : Char) : Prop := 0x20 ≤ c.toNat ∧ c.toNat < 0x7F

instance (c : Char) : Decidable (IsPrintable c) := inferInstanceAs (Decidable (_ ∧ _))

theorem isPrintable_hexText (width n : Nat) : ∀ c ∈ hexText width n, IsPrintable c :=
  forall_mem_hexText (by decide) width n

namespace Json

/-! ## Units -/

/-- The UTF-16 units of a character. -/
def unitsOf (c : Char) : List Nat :=
  if c.toNat < 0x10000 then [c.toNat]
  else [0xD800 + (c.toNat - 0x10000) / 0x400, 0xDC00 + (c.toNat - 0x10000) % 0x400]

/-- Code points are no surrogates and end at U+10FFFF. -/
theorem toNat_bounds (c : Char) :
    c.toNat < 0xD800 ∨ 0xDFFF < c.toNat ∧ c.toNat < 0x110000 := c.valid

theorem isSurrogate_toNat (c : Char) :
    isHighSurrogate c.toNat = false ∧ isLowSurrogate c.toNat = false := by
  have hbounds := toNat_bounds c
  simp only [isHighSurrogate, isLowSurrogate, Bool.and_eq_false_iff, decide_eq_false_iff_not]
  omega

theorem charOfUnit_toNat (c : Char) : charOfUnit c.toNat = c := by
  simp [charOfUnit, isSurrogate_toNat c]

theorem joinSurrogates_cons (c : Char) (units : List Nat) :
    joinSurrogates (c.toNat :: units) = c :: joinSurrogates units := by
  cases units with
  | nil => simp [joinSurrogates, charOfUnit_toNat]
  | cons unit rest => simp [joinSurrogates, isSurrogate_toNat c, charOfUnit_toNat]

theorem joinSurrogates_pair {n : Nat} (hn : n < 0x100000) (units : List Nat) :
    joinSurrogates ((0xD800 + n / 0x400) :: (0xDC00 + n % 0x400) :: units) =
      Char.ofNat (0x10000 + n) :: joinSurrogates units := by
  have hhigh : isHighSurrogate (0xD800 + n / 0x400) = true := by
    simp only [isHighSurrogate, Bool.and_eq_true, decide_eq_true_eq]
    omega
  have hlow : isLowSurrogate (0xDC00 + n % 0x400) = true := by
    simp only [isLowSurrogate, Bool.and_eq_true, decide_eq_true_eq]
    omega
  have hsum : 0x10000 + (0xD800 + n / 0x400 - 0xD800) * 0x400 + (0xDC00 + n % 0x400 - 0xDC00) =
      0x10000 + n := by omega
  rw [joinSurrogates, hhigh, hlow, hsum]
  rfl

/-- The units of a text join to the text again. -/
theorem joinSurrogates_unitsOf (chars : List Char) :
    joinSurrogates (chars.flatMap unitsOf) = chars := by
  induction chars with
  | nil => rfl
  | cons c rest ih =>
    rw [List.flatMap_cons, unitsOf]
    split
    · simp [joinSurrogates_cons, ih]
    · next hlarge =>
      have hbounds := toNat_bounds c
      have hsum : 0x10000 + (c.toNat - 0x10000) = c.toNat := by omega
      have hpair := joinSurrogates_pair (n := c.toNat - 0x10000) (by omega)
        (rest.flatMap unitsOf)
      simpa [hsum, ih] using hpair

/-! ## Characters -/

/-- The four ways in which a character is written. -/
inductive Written (c : Char) : List Char → Prop
  | escaped {letter : Char} : letter ≠ 'u' → IsPrintable letter → escaped? letter = some c →
    c.toNat < 0x10000 → Written c ['\\', letter]
  | plain : c ≠ '"' → c ≠ '\\' → IsPrintable c → Written c [c]
  | unit : c.toNat < 0x10000 → Written c (unitEscape c.toNat)
  | pair : 0x10000 ≤ c.toNat →
    Written c (unitEscape (0xD800 + (c.toNat - 0x10000) / 0x400) ++
      unitEscape (0xDC00 + (c.toNat - 0x10000) % 0x400))

theorem literalChar_written (c : Char) : Written c (literalChar c) := by
  by_cases hescaped : c ∈ ['"', '\\', '\n', '\r', '\t', '\x08', '\x0c']
  · simp only [List.mem_cons, List.not_mem_nil, or_false] at hescaped
    rcases hescaped with rfl | rfl | rfl | rfl | rfl | rfl | rfl <;>
      exact .escaped (by decide) (by decide) rfl (by decide)
  · simp only [List.mem_cons, List.not_mem_nil, or_false, not_or] at hescaped
    obtain ⟨hquote, hslash, hn, hr, ht, hb, hf⟩ := hescaped
    simp only [literalChar, hquote, hslash, hn, hr, ht, hb, hf, if_false]
    split
    · next hprintable =>
      simp only [Bool.and_eq_true, decide_eq_true_eq] at hprintable
      exact .plain hquote hslash hprintable
    split
    · next hsmall => exact .unit hsmall
    · next hlarge => exact .pair (Nat.not_lt.1 hlarge)

theorem isPrintable_unitEscape (unit : Nat) : ∀ c ∈ unitEscape unit, IsPrintable c := by
  intro c hc
  simp only [unitEscape, List.mem_cons] at hc
  rcases hc with rfl | rfl | hc
  · decide
  · decide
  · exact isPrintable_hexText 4 unit c hc

theorem Written.isPrintable {c : Char} {text : List Char} (h : Written c text) :
    ∀ d ∈ text, IsPrintable d := by
  intro d hd
  cases h with
  | escaped _ hletter _ _ =>
    simp only [List.mem_cons, List.not_mem_nil, or_false] at hd
    rcases hd with rfl | rfl
    · decide
    · exact hletter
  | plain _ _ hc =>
    rw [List.mem_singleton.1 hd]
    exact hc
  | unit _ => exact isPrintable_unitEscape _ d hd
  | pair _ =>
    rcases List.mem_append.1 hd with hmem | hmem
    · exact isPrintable_unitEscape _ d hmem
    · exact isPrintable_unitEscape _ d hmem

/-! ## Reading -/

variable {opening : Nat} {units : List Nat} {rest after : List Char}

/-- An escaped unit is read as itself. The text goes on after it, if only with the closing
quote. -/
theorem literalUnits_unitEscape {unit : Nat} (hunit : unit < 0x10000) (hrest : rest ≠ [])
    (h : literalUnits opening rest = .ok (units, after)) :
    literalUnits opening (unitEscape unit ++ rest) = .ok (unit :: units, after) := by
  obtain ⟨next, tail, rfl⟩ := List.exists_cons_of_ne_nil hrest
  have hsmall : unit % Nat.pow 16 4 = unit := Nat.mod_eq_of_lt hunit
  have hread := hexNumber?_hexText 4 unit
  rw [hsmall] at hread
  change literalUnits opening ('\\' :: 'u' :: _ :: _ :: _ :: _ :: next :: tail) = _
  rw [literalUnits.eq_3 _ _ _ _ _ unit _ _ hread, h]
  rfl

/-- A written character is read as its units. -/
theorem Written.literalUnits {c : Char} {text : List Char} (hc : Written c text)
    (hrest : rest ≠ []) (h : literalUnits opening rest = .ok (units, after)) :
    literalUnits opening (text ++ rest) = .ok (unitsOf c ++ units, after) := by
  unfold unitsOf
  cases hc with
  | @escaped letter hu _ hmeant hsmall =>
    rw [if_pos hsmall]
    change Json.literalUnits opening ('\\' :: letter :: rest) = _
    rw [literalUnits.eq_6 _ _ _ fun _ _ _ _ _ hletter => absurd hletter hu, hmeant]
    simp only [h]
    rfl
  | plain hquote hslash hprintable =>
    have hlow : ¬ c.toNat < 0x20 := Nat.not_lt.2 hprintable.1
    have hsmall : c.toNat < 0x10000 := Nat.lt_trans hprintable.2 (by decide)
    rw [if_pos hsmall]
    change Json.literalUnits opening (c :: rest) = _
    rw [literalUnits.eq_7 _ _ _ hquote (fun _ _ _ _ _ hc => absurd hc hslash)
      (fun hc => absurd hc hslash) (fun _ _ hc => absurd hc hslash), if_neg hlow, h]
    rfl
  | unit hsmall =>
    rw [if_pos hsmall]
    exact literalUnits_unitEscape hsmall hrest h
  | pair hlarge =>
    have hbounds := toNat_bounds c
    have hlow : 0xDC00 + (c.toNat - 0x10000) % 0x400 < 0x10000 := by omega
    have hhigh : 0xD800 + (c.toNat - 0x10000) / 0x400 < 0x10000 := by omega
    rw [if_neg (Nat.not_lt.2 hlarge), List.append_assoc]
    exact literalUnits_unitEscape hhigh (by simp [unitEscape])
      (literalUnits_unitEscape hlow hrest h)

theorem literalUnits_text (chars rest : List Char) :
    literalUnits opening (chars.flatMap literalChar ++ '"' :: rest) =
      .ok (chars.flatMap unitsOf, rest) := by
  induction chars with
  | nil => rfl
  | cons c chars ih =>
    rw [List.flatMap_cons, List.append_assoc, List.flatMap_cons]
    exact (literalChar_written c).literalUnits (by simp) ih

theorem literal_append (s : String) (rest : List Char) :
    literal s ++ rest = '"' :: (s.toList.flatMap literalChar ++ '"' :: rest) := by
  simp [literal]

/-- A literal reads back as its text, and reading stops behind the closing quote. -/
theorem readLiteral_literal (s : String) (rest : List Char) :
    readLiteral (s.toList.flatMap literalChar ++ '"' :: rest) = .ok (s, rest) := by
  unfold readLiteral
  rw [literalUnits_text]
  change Except.ok (String.ofList (joinSurrogates (s.toList.flatMap unitsOf)), rest) = _
  rw [joinSurrogates_unitsOf, String.ofList_toList]

theorem isPrintable_literal (s : String) : ∀ c ∈ literal s, IsPrintable c := by
  intro c hc
  simp only [literal, List.cons_append, List.mem_cons, List.mem_append, List.mem_flatMap,
    List.not_mem_nil, or_false] at hc
  rcases hc with rfl | ⟨d, -, hd⟩ | rfl
  · decide
  · exact (literalChar_written d).isPrintable c hd
  · decide

end Json

end SearchBuilder
