import SearchBuilder.Text.Blank
import SearchBuilder.Text.Split
import Mathlib.Data.List.DropRight

/-!
# Cutting and trimming texts

A text that was put together around a mark is cut at that mark into its parts, as long as the mark
is not in the first of them; and trimming a text that was put together trims its last part. What is
left of a text trimmed at both ends neither begins nor ends in a character to trim.
-/

namespace SearchBuilder

/-! ## Texts cut at a mark -/

section Marks

variable {mark : Char} {front : List Char}

theorem forall_ne_mark (h : mark ∉ front) : ∀ c ∈ front, decide (c ≠ mark) = true := by
  intro c hc
  rw [decide_eq_true_eq]
  rintro rfl
  exact h hc

theorem beforeFirst_of_not_mem (h : mark ∉ front) : beforeFirst mark front = front := by
  have hwhole : (front ++ []).takeWhile (· ≠ mark) = front ++ [] :=
    List.takeWhile_append_of_pos (forall_ne_mark h)
  rwa [List.append_nil] at hwhole

theorem beforeFirst_append_left (h : mark ∉ front) (rest : List Char) :
    beforeFirst mark (front ++ rest) = front ++ beforeFirst mark rest :=
  List.takeWhile_append_of_pos (forall_ne_mark h)

theorem beforeFirst_append (h : mark ∉ front) (rest : List Char) :
    beforeFirst mark (front ++ mark :: rest) = front := by
  rw [beforeFirst_append_left h]
  simp [beforeFirst]

theorem afterFirst_of_not_mem (h : mark ∉ front) : afterFirst mark front = [] := by
  have hwhole : (front ++ []).dropWhile (· ≠ mark) = [] :=
    List.dropWhile_append_of_pos (forall_ne_mark h)
  unfold afterFirst
  rw [← front.append_nil, hwhole, List.drop_nil]

theorem afterFirst_append (h : mark ∉ front) (rest : List Char) :
    afterFirst mark (front ++ mark :: rest) = rest := by
  unfold afterFirst
  rw [List.dropWhile_append_of_pos (forall_ne_mark h)]
  simp

theorem afterLast_of_not_mem (h : mark ∉ front) : afterLast mark front = front := by
  have hback : beforeFirst mark front.reverse = front.reverse :=
    beforeFirst_of_not_mem (by simpa using h)
  exact (congrArg List.reverse hback).trans front.reverse_reverse

end Marks

/-! ## Texts trimmed at the end -/

section Trim

variable {p : Char → Bool} {front rest : List Char}

theorem trimRight_eq (p : Char → Bool) (s : List Char) : trimRight p s = s.rdropWhile p := rfl

theorem trimRight_append (front : List Char) (h : trimRight p rest ≠ []) :
    trimRight p (front ++ rest) = front ++ trimRight p rest := by
  simp only [trimRight_eq] at h ⊢
  induction rest using List.reverseRecOn with
  | nil => exact absurd (List.rdropWhile_nil p) h
  | append_singleton rest c ih =>
    rw [← List.append_assoc, List.rdropWhile_concat, List.rdropWhile_concat]
    rw [List.rdropWhile_concat] at h
    split at h
    · next hc =>
      rw [if_pos hc, if_pos hc]
      exact ih h
    · next hc =>
      rw [if_neg hc, if_neg hc]
      exact List.append_assoc ..

/-- A front that does not end in a character to trim stays whole. -/
theorem trimRight_append_of_trimmed (h : trimRight p front = front) :
    trimRight p (front ++ rest) = front ++ trimRight p rest := by
  by_cases hrest : trimRight p rest = []
  · rw [hrest, List.append_nil]
    rw [trimRight_eq, List.rdropWhile_eq_nil_iff] at hrest
    unfold trimRight
    rw [List.reverse_append,
      List.dropWhile_append_of_pos fun c hc => hrest c (List.mem_reverse.1 hc)]
    exact h
  · exact trimRight_append front hrest

theorem trimRight_of_forall (h : ∀ c ∈ front, p c = false) : trimRight p front = front := by
  rw [trimRight_eq, List.rdropWhile_eq_self_iff]
  intro hne
  rw [h _ (List.getLast_mem hne)]
  exact Bool.false_ne_true

/-! ## Texts trimmed at both ends -/

variable {c : Char}

theorem trimBoth_eq_nil_iff : trimBoth p front = [] ↔ ∀ c ∈ front, p c = true := by
  rw [trimBoth, trimRight_eq, List.rdropWhile_eq_nil_iff]
  refine ⟨fun h c hc => ?_, fun h c hc => h c ((List.dropWhile_suffix p).subset hc)⟩
  rw [← List.takeWhile_append_dropWhile (p := p) (l := front), List.mem_append] at hc
  exact hc.elim List.mem_takeWhile_imp (h c)

theorem head?_trimBoth (h : (trimBoth p front).head? = some c) : p c = false := by
  obtain ⟨rest, hrest⟩ := List.head?_eq_some_iff.1 h
  obtain ⟨dropped, hdropped⟩ := List.rdropWhile_prefix p (l := front.dropWhile p)
  have hbegins : front.dropWhile p = c :: (rest ++ dropped) := by
    rw [← hdropped, ← trimRight_eq, ← trimBoth, hrest, List.cons_append]
  have hne : front.dropWhile p ≠ [] := hbegins ▸ List.cons_ne_nil c _
  have hhead := List.head_dropWhile_not p hne
  simpa only [hbegins, List.head_cons] using hhead

theorem getLast?_trimBoth (h : (trimBoth p front).getLast? = some c) : p c = false := by
  have hne : trimBoth p front ≠ [] := by
    intro hnil
    rw [hnil] at h
    cases h
  rw [List.getLast?_eq_some_getLast hne] at h
  rw [← Option.some.inj h]
  exact Bool.eq_false_iff.2 (List.rdropWhile_last_not p _ hne)

end Trim

end SearchBuilder
