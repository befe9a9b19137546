import SearchBuilder.Text.Percent
import SearchBuilder.Proofs.Text.Hex

/-!
# Percent encoding read back

A percent-encoded text decodes to the text that was encoded (`Percent.decode?_encode`), and it is
made of kept characters, percent signs and hexadecimal digits only, so none of the marks that divide
a query or a path occurs in it (`Percent.forall_mem_encode`).
-/

namespace SearchBuilder.Percent

/-- The bytes of a coded text: an escape is one byte, any other character is its UTF-8 bytes. -/
def bytes? : List Char → Option (List UInt8)
  | [] => some []
  | '%' :: a :: b :: rest => do
    let n ← hexNumber? [a, b]
    let bytes ← bytes? rest
    return UInt8.ofNat n :: bytes
  | c :: rest =>
    if c = '%' then none
    else do
      let bytes ← bytes? rest
      return String.utf8EncodeChar c ++ bytes

/-- The text of which a coded text holds the bytes, if they are UTF-8. -/
def decode? (s : List Char) : Option (List Char) := do
  let bytes ← bytes? s
  let chars ← bytes.toByteArray.utf8Decode?
  return chars.toList

variable {rest : List Char} {bytes : List UInt8}

theorem isKept_ne_percent {c : Char} (h : isKept c = true) : c ≠ '%' := by
  rintro rfl
  cases h

theorem bytes?_cons {c : Char} (hc : c ≠ '%') (h : bytes? rest = some bytes) :
    bytes? (c :: rest) = some (String.utf8EncodeChar c ++ bytes) := by
  rw [bytes?, if_neg hc, h]
  · rfl
  · rintro a b tail rfl
    exact absurd rfl hc

theorem bytes?_encodeByte (b : UInt8) (h : bytes? rest = some bytes) :
    bytes? (encodeByte b ++ rest) = some (b :: bytes) := by
  have hread : hexNumber? ((hexText 2 b.toNat).map Char.toUpper) = some b.toNat := by
    have hsmall : b.toNat % Nat.pow 16 2 = b.toNat := Nat.mod_eq_of_lt b.toNat_lt
    rw [hexNumber?_map_hexText hexValue?_toUpper_hexDigit, hsmall]
  change bytes? ('%' :: _ :: _ :: rest) = _
  rw [bytes?]
  change (hexNumber? ((hexText 2 b.toNat).map Char.toUpper)).bind _ = _
  rw [hread, h]
  simp

theorem bytes?_flatMap_encodeByte (coded : List UInt8) (h : bytes? rest = some bytes) :
    bytes? (coded.flatMap encodeByte ++ rest) = some (coded ++ bytes) := by
  induction coded with
  | nil => exact h
  | cons b coded ih =>
    rw [List.flatMap_cons, List.append_assoc]
    exact bytes?_encodeByte b ih

theorem bytes?_encode (s : List Char) :
    bytes? (encode s) = some (s.flatMap String.utf8EncodeChar) := by
  induction s with
  | nil => rfl
  | cons c s ih =>
    change bytes? (encodeChar c ++ encode s) = some (String.utf8EncodeChar c ++ _)
    unfold encodeChar
    split
    · next hkept => exact bytes?_cons (isKept_ne_percent hkept) ih
    · exact bytes?_flatMap_encodeByte _ ih

/-- A coded text decodes to what was encoded. -/
theorem decode?_encode (s : List Char) : decode? (encode s) = some s := by
  unfold decode?
  rw [bytes?_encode]
  change (List.utf8Encode s).utf8Decode?.bind _ = _
  rw [List.utf8Decode?_utf8Encode]
  simp

/-- What holds of kept characters, percent signs and capital digits holds throughout. -/
theorem forall_mem_encode {p : Char → Prop} (hkept : ∀ c, isKept c = true → p c)
    (hpercent : p '%') (s : List Char) : ∀ c ∈ encode s, p c := by
  have hdigit : ∀ d < 16, isKept (Nat.digitChar d).toUpper = true := by decide
  have hbyte (b : UInt8) : ∀ c ∈ encodeByte b, p c := by
    refine List.forall_mem_cons.2 ⟨hpercent, fun c hc => ?_⟩
    obtain ⟨d, hd, rfl⟩ := List.mem_map.1 hc
    exact hkept _ (forall_mem_hexText (p := fun d => isKept d.toUpper = true) hdigit 2 _ d hd)
  intro c hc
  obtain ⟨original, -, hcoded⟩ := List.mem_flatMap.1 hc
  unfold encodeChar at hcoded
  split at hcoded
  · next horiginal =>
    rw [List.mem_singleton.1 hcoded]
    exact hkept original horiginal
  · obtain ⟨b, -, hmem⟩ := List.mem_flatMap.1 hcoded
    exact hbyte b c hmem

theorem not_mem_encode {mark : Char} (hkept : isKept mark = false) (hpercent : mark ≠ '%')
    (s : List Char) : mark ∉ encode s := by
  intro hmem
  refine forall_mem_encode (p := (· ≠ mark)) (fun c hc => ?_) hpercent.symm s mark hmem rfl
  rintro rfl
  exact Bool.false_ne_true (hkept.symm.trans hc)

end SearchBuilder.Percent
