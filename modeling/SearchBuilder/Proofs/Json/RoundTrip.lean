import SearchBuilder.Json.Printer
import SearchBuilder.Proofs.Json.Entries
import SearchBuilder.Proofs.Json.Numeral

/-!
# Printed values read back

A value without doubles in which no object repeats a key is what its printed text reads as
(`Json.parse_print`), with either separators, and the text is in printable ASCII
(`Json.isPrintable_print`). The reader spends its budget on characters: `ReadsBack` says of one
value that a budget of twice the length of its text is enough, whatever follows; lists and objects
have it if all of their parts do, and so by induction every value has it.
-/

namespace SearchBuilder.Json

/-! ## Spaces -/

theorem skipSpace_of_not {c : Char} (hc : isSpace c = false) (rest : List Char) :
    skipSpace (c :: rest) = c :: rest := by simp [skipSpace, hc]

theorem skipSpace_blank {blank : List Char} (hblank : ∀ c ∈ blank, c = ' ') (rest : List Char) :
    skipSpace (blank ++ rest) = skipSpace rest := by
  refine List.dropWhile_append_of_pos fun c hc => ?_
  rw [hblank c hc]
  rfl

theorem skipSpace_literal {blank : List Char} (hblank : ∀ c ∈ blank, c = ' ') (s : String)
    (rest : List Char) : skipSpace (blank ++ (literal s ++ rest)) = literal s ++ rest := by
  rw [skipSpace_blank hblank, literal_append]
  exact skipSpace_of_not rfl _

theorem isSpace_of_isDigit {c : Char} (h : c.isDigit = true) : isSpace c = false := by
  have hne {d : Char} (hd : d.isDigit = false) : c ≠ d := by
    rintro rfl
    exact Bool.false_ne_true (hd.symm.trans h)
  simp [isSpace, hne (d := ' ') rfl, hne (d := '\t') rfl, hne (d := '\n') rfl,
    hne (d := '\r') rfl]

/-- The separators are the marks of JSON, with nothing but spaces behind. -/
structure Spacing.Separates (spacing : Spacing) : Prop where
  item : ∃ blank, spacing.item = ',' :: blank ∧ ∀ c ∈ blank, c = ' '
  key : ∃ blank, spacing.key = ':' :: blank ∧ ∀ c ∈ blank, c = ' '

theorem Spacing.compact_separates : Spacing.compact.Separates where
  item := ⟨[], rfl, List.forall_mem_nil _⟩
  key := ⟨[], rfl, List.forall_mem_nil _⟩

theorem Spacing.spaced_separates : Spacing.spaced.Separates where
  item := ⟨[' '], rfl, List.forall_mem_singleton.2 rfl⟩
  key := ⟨[' '], rfl, List.forall_mem_singleton.2 rfl⟩

/-! ## Values without doubles -/

mutual

/-- Whether a value is JSON, holds no double and no object in it repeats a key. -/
def isExact : Json → Bool
  | .float _ | .foreign .. => false
  | .arr items => itemsExact items
  | .obj members => decide (members.map (·.1)).Nodup && membersExact members
  | _ => true

def itemsExact : List Json → Bool
  | [] => true
  | item :: rest => isExact item && itemsExact rest

def membersExact : List (String × Json) → Bool
  | [] => true
  | (_, value) :: rest => isExact value && membersExact rest

end

/-- A value starts with a character that is neither a space nor the end of a list. -/
theorem exists_print (spacing : Spacing) {j : Json} (h : j.isExact = true) :
    ∃ c tail, print spacing j = c :: tail ∧ isSpace c = false ∧ c ≠ ']' := by
  cases j with
  | null => exact ⟨_, _, rfl, by decide, by decide⟩
  | bool b => cases b <;> exact ⟨_, _, rfl, by decide, by decide⟩
  | int i =>
    obtain ⟨c, tail, htext, hc⟩ := exists_intText i
    have hspace : isSpace c = false := by
      rcases hc with rfl | hdigit
      · rfl
      · exact isSpace_of_isDigit hdigit
    have hclose : c ≠ ']' := by
      rintro rfl
      rcases hc with hc | hdigit
      · exact absurd hc (by decide)
      · cases hdigit
    exact ⟨c, tail, htext, hspace, hclose⟩
  | float x => cases h
  | foreign shown written => cases h
  | str s => exact ⟨_, _, rfl, by decide, by decide⟩
  | arr items => cases items <;> exact ⟨_, _, rfl, by decide, by decide⟩
  | obj members => cases members <;> exact ⟨_, _, rfl, by decide, by decide⟩

/-! ## Steps of the reader -/

section Steps

variable {budget : Nat} {s next more rest after : List Char} {item value : Json} {items : List Json}
  {key : String} {members : List (String × Json)}

theorem readValue_arr (hskip : skipSpace rest = s) (hclose : s.head? ≠ some ']')
    (h : readItems budget s = .ok (items, after)) :
    readValue (budget + 1) ('[' :: rest) = .ok (.arr items, after) := by
  subst hskip
  rw [readValue]
  split
  · next hs => exact absurd (congrArg List.head? hs) hclose
  · rw [h]
    rfl

theorem readItems_last (h : readValue budget s = .ok (item, ']' :: after)) :
    readItems (budget + 1) s = .ok ([item], after) := by
  rw [readItems, h]
  rfl

theorem readItems_next (hitem : readValue budget s = .ok (item, ',' :: next))
    (hitems : readItems budget (skipSpace next) = .ok (items, after)) :
    readItems (budget + 1) s = .ok (item :: items, after) := by
  have hcomma : skipSpace (',' :: next) = ',' :: next := skipSpace_of_not rfl next
  simp only [readItems, hitem, bind, Except.bind, hcomma, hitems]

theorem readValue_obj (h : readMembers budget ('"' :: rest) = .ok (members, after)) :
    readValue (budget + 1) ('{' :: '"' :: rest) = .ok (.obj (Entries.ofList members), after) := by
  have hquote : skipSpace ('"' :: rest) = '"' :: rest := skipSpace_of_not rfl rest
  rw [readValue, hquote]
  change (readMembers budget ('"' :: rest) >>= fun found =>
    .ok (Json.obj (Entries.ofList found.1), found.2)) = _
  rw [h]
  rfl

theorem readMembers_last (hkey : readLiteral rest = .ok (key, ':' :: next))
    (hvalue : readValue budget (skipSpace next) = .ok (value, '}' :: after)) :
    readMembers (budget + 1) ('"' :: rest) = .ok ([(key, value)], after) := by
  have hcolon : skipSpace (':' :: next) = ':' :: next := skipSpace_of_not rfl next
  have hclose : skipSpace ('}' :: after) = '}' :: after := skipSpace_of_not rfl after
  simp only [readMembers, hkey, bind, Except.bind, hcolon, hvalue, hclose]

theorem readMembers_next (hkey : readLiteral rest = .ok (key, ':' :: next))
    (hvalue : readValue budget (skipSpace next) = .ok (value, ',' :: more))
    (hmembers : readMembers budget (skipSpace more) = .ok (members, after)) :
    readMembers (budget + 1) ('"' :: rest) = .ok ((key, value) :: members, after) := by
  have hcolon : skipSpace (':' :: next) = ':' :: next := skipSpace_of_not rfl next
  have hcomma : skipSpace (',' :: more) = ',' :: more := skipSpace_of_not rfl more
  simp only [readMembers, hkey, bind, Except.bind, hcolon, hvalue, hcomma, hmembers]

end Steps

/-! ## What is printed -/

/-- A printed value does not begin with a space. -/
theorem skipSpace_print (spacing : Spacing) {j : Json} (h : j.isExact = true)
    (rest : List Char) : skipSpace (print spacing j ++ rest) = print spacing j ++ rest := by
  obtain ⟨c, tail, htext, hspace, -⟩ := exists_print spacing h
  rw [htext]
  exact skipSpace_of_not hspace _

theorem skipSpace_blank_print (spacing : Spacing) {j : Json} (h : j.isExact = true)
    {blank : List Char} (hblank : ∀ c ∈ blank, c = ' ') (rest : List Char) :
    skipSpace (blank ++ (print spacing j ++ rest)) = print spacing j ++ rest := by
  rw [skipSpace_blank hblank, skipSpace_print spacing h]

theorem length_print_pos (spacing : Spacing) {j : Json} (h : j.isExact = true) :
    0 < (print spacing j).length := by
  obtain ⟨c, tail, htext, -⟩ := exists_print spacing h
  rw [htext]
  exact Nat.succ_pos _

/-! ## Printed in ASCII -/

theorem isPrintable_of_all {text : List Char}
    (h : (text.all fun c => decide (IsPrintable c)) = true) : ∀ c ∈ text, IsPrintable c :=
  fun c hc => of_decide_eq_true (List.all_eq_true.1 h c hc)

theorem Spacing.Separates.isPrintable_item {spacing : Spacing} (hs : spacing.Separates) :
    ∀ c ∈ spacing.item, IsPrintable c := by
  obtain ⟨blank, hitem, hblank⟩ := hs.item
  rw [hitem, List.forall_mem_cons]
  exact ⟨by decide, fun c hc => hblank c hc ▸ by decide⟩

theorem Spacing.Separates.isPrintable_key {spacing : Spacing} (hs : spacing.Separates) :
    ∀ c ∈ spacing.key, IsPrintable c := by
  obtain ⟨blank, hkey, hblank⟩ := hs.key
  rw [hkey, List.forall_mem_cons]
  exact ⟨by decide, fun c hc => hblank c hc ▸ by decide⟩

mutual

/-- All that is printed is in printable characters. -/
theorem isPrintable_print {spacing : Spacing} (hs : spacing.Separates) :
    ∀ j : Json, j.isExact = true → ∀ c ∈ print spacing j, IsPrintable c
  | .null, _ => isPrintable_of_all rfl
  | .bool true, _ => isPrintable_of_all rfl
  | .bool false, _ => isPrintable_of_all rfl
  | .int i, _ => isPrintable_intText i
  | .float _, hexact | .foreign _ _, hexact => by cases hexact
  | .str s, _ => isPrintable_literal s
  | .arr [], _ => isPrintable_of_all rfl
  | .arr (item :: items), hexact => by
    obtain ⟨hitem, hitems⟩ := Bool.and_eq_true_iff.1 hexact
    simp only [print, List.forall_mem_append, List.forall_mem_cons]
    exact ⟨⟨⟨by decide, isPrintable_print hs item hitem⟩, isPrintable_printItems hs items hitems⟩,
      by decide, by simp⟩
  | .obj [], _ => isPrintable_of_all rfl
  | .obj ((key, value) :: members), hexact => by
    obtain ⟨-, hexact⟩ := Bool.and_eq_true_iff.1 hexact
    obtain ⟨hvalue, hmembers⟩ := Bool.and_eq_true_iff.1 hexact
    simp only [print, List.forall_mem_append, List.forall_mem_cons]
    exact ⟨⟨⟨⟨⟨by decide, isPrintable_literal key⟩, hs.isPrintable_key⟩,
      isPrintable_print hs value hvalue⟩, isPrintable_printMembers hs members hmembers⟩,
      by decide, by simp⟩

theorem isPrintable_printItems {spacing : Spacing} (hs : spacing.Separates) :
    ∀ items : List Json, itemsExact items = true → ∀ c ∈ printItems spacing items, IsPrintable c
  | [], _ => by simp [printItems]
  | item :: items, hexact => by
    obtain ⟨hitem, hitems⟩ := Bool.and_eq_true_iff.1 hexact
    simp only [printItems, List.forall_mem_append]
    exact ⟨⟨hs.isPrintable_item, isPrintable_print hs item hitem⟩,
      isPrintable_printItems hs items hitems⟩

theorem isPrintable_printMembers {spacing : Spacing} (hs : spacing.Separates) :
    ∀ members : List (String × Json), membersExact members = true →
      ∀ c ∈ printMembers spacing members, IsPrintable c
  | [], _ => by simp [printMembers]
  | (key, value) :: members, hexact => by
    obtain ⟨hvalue, hmembers⟩ := Bool.and_eq_true_iff.1 hexact
    simp only [printMembers, List.forall_mem_append]
    exact ⟨⟨⟨⟨hs.isPrintable_item, isPrintable_literal key⟩, hs.isPrintable_key⟩,
      isPrintable_print hs value hvalue⟩, isPrintable_printMembers hs members hmembers⟩

end

/-! ## Read back -/

/-- Whatever ends it, a printed value is read back within a budget of twice its length. -/
def ReadsBack (spacing : Spacing) (j : Json) : Prop :=
  ∀ (budget : Nat) (rest : List Char), 2 * (print spacing j).length ≤ budget + 1 → Ends rest →
    readValue (budget + 1) (print spacing j ++ rest) = .ok (j, rest)

section ReadsBack

variable {spacing : Spacing}

theorem readItems_print (hs : spacing.Separates) {item : Json} {items : List Json}
    (hexact : itemsExact (item :: items) = true)
    (h : ∀ j ∈ item :: items, ReadsBack spacing j) (budget : Nat) (rest : List Char)
    (hbudget : 2 * ((print spacing item).length + (printItems spacing items).length) ≤ budget) :
    readItems (budget + 1) (print spacing item ++ (printItems spacing items ++ ']' :: rest)) =
      .ok (item :: items, rest) := by
  induction items generalizing item budget with
  | nil =>
    have hitem : item.isExact = true := (Bool.and_eq_true_iff.1 hexact).1
    have hpos := length_print_pos spacing hitem
    obtain ⟨budget, rfl⟩ : ∃ b, budget = b + 1 := ⟨budget - 1, by omega⟩
    have hread := h item List.mem_cons_self budget (']' :: rest) (by omega) (by simp [Ends])
    exact readItems_last hread
  | cons next items ih =>
    obtain ⟨hitem, hitems⟩ := Bool.and_eq_true_iff.1 hexact
    have hnext : next.isExact = true := (Bool.and_eq_true_iff.1 hitems).1
    obtain ⟨blank, hsep, hblank⟩ := hs.item
    have hpos := length_print_pos spacing hitem
    simp only [printItems, hsep, List.cons_append, List.append_assoc, List.length_cons,
      List.length_append] at hbudget ⊢
    obtain ⟨budget, rfl⟩ : ∃ b, budget = b + 1 := ⟨budget - 1, by omega⟩
    refine readItems_next (h item List.mem_cons_self budget _ (by omega) (by simp [Ends])) ?_
    rw [skipSpace_blank_print spacing hnext hblank]
    exact ih hitems (fun j hj => h j (List.mem_cons_of_mem _ hj)) budget (by omega)

theorem readMembers_print (hs : spacing.Separates) {key : String} {value : Json}
    {members : List (String × Json)} (hexact : membersExact ((key, value) :: members) = true)
    (h : ∀ m ∈ (key, value) :: members, ReadsBack spacing m.2) (budget : Nat) (rest : List Char)
    (hbudget : 2 * ((print spacing value).length + (printMembers spacing members).length) ≤
      budget) :
    readMembers (budget + 1) (literal key ++ (spacing.key ++ (print spacing value ++
      (printMembers spacing members ++ '}' :: rest)))) = .ok ((key, value) :: members, rest) := by
  obtain ⟨blank, hcolon, hblank⟩ := hs.key
  induction members generalizing key value budget with
  | nil =>
    have hvalue : value.isExact = true := (Bool.and_eq_true_iff.1 hexact).1
    have hpos := length_print_pos spacing hvalue
    obtain ⟨budget, rfl⟩ : ∃ b, budget = b + 1 := ⟨budget - 1, by omega⟩
    have hback : ReadsBack spacing value := h _ List.mem_cons_self
    have hread := hback budget ('}' :: rest) (by omega) (by simp [Ends])
    rw [← skipSpace_blank_print spacing hvalue hblank] at hread
    rw [literal_append, hcolon]
    exact readMembers_last (readLiteral_literal key _) hread
  | cons entry members ih =>
    obtain ⟨name, next⟩ := entry
    obtain ⟨hvalue, hmembers⟩ := Bool.and_eq_true_iff.1 hexact
    obtain ⟨gap, hcomma, hgap⟩ := hs.item
    have hpos := length_print_pos spacing hvalue
    simp only [printMembers, hcomma, List.cons_append, List.append_assoc, List.length_cons,
      List.length_append] at hbudget ⊢
    obtain ⟨budget, rfl⟩ : ∃ b, budget = b + 1 := ⟨budget - 1, by omega⟩
    have hback : ReadsBack spacing value := h _ List.mem_cons_self
    have hread := hback budget (',' :: (gap ++ (literal name ++ (spacing.key ++
      (print spacing next ++ (printMembers spacing members ++ '}' :: rest)))))) (by omega)
      (by simp [Ends])
    rw [← skipSpace_blank_print spacing hvalue hblank] at hread
    have hmore := ih hmembers (fun m hm => h m (List.mem_cons_of_mem _ hm)) budget (by omega)
    rw [← skipSpace_literal hgap] at hmore
    rw [hcolon] at hread hmore ⊢
    rw [literal_append key]
    exact readMembers_next (readLiteral_literal key _) hread hmore

/-- A list is read back if its items are. -/
theorem readsBack_arr (hs : spacing.Separates) {items : List Json}
    (hexact : itemsExact items = true) (h : ∀ j ∈ items, ReadsBack spacing j) :
    ReadsBack spacing (.arr items) := by
  intro budget rest hbudget _
  cases items with
  | nil => rfl
  | cons item items =>
    have hitem : item.isExact = true := (Bool.and_eq_true_iff.1 hexact).1
    simp only [print, List.cons_append, List.append_assoc, List.length_cons,
      List.length_append] at hbudget ⊢
    obtain ⟨budget, rfl⟩ : ∃ b, budget = b + 1 := ⟨budget - 1, by omega⟩
    obtain ⟨c, tail, htext, -, hclose⟩ := exists_print spacing hitem
    have hread := readItems_print hs hexact h budget rest (by omega)
    refine readValue_arr (skipSpace_print spacing hitem _) ?_ hread
    simpa [htext] using hclose

/-- An object without repeated keys is read back if its members are. -/
theorem readsBack_obj (hs : spacing.Separates) {members : List (String × Json)}
    (hkeys : (members.map (·.1)).Nodup) (hexact : membersExact members = true)
    (h : ∀ m ∈ members, ReadsBack spacing m.2) : ReadsBack spacing (.obj members) := by
  intro budget rest hbudget _
  match members with
  | [] => rfl
  | (key, value) :: members =>
    simp only [print, List.cons_append, List.append_assoc, List.length_cons,
      List.length_append] at hbudget ⊢
    obtain ⟨budget, rfl⟩ : ∃ b, budget = b + 1 := ⟨budget - 1, by omega⟩
    have hread := readMembers_print hs hexact h budget rest (by omega)
    have hof : Entries.ofList ((key, value) :: members) = (key, value) :: members :=
      Entries.merge_of_nodup [] hkeys
    rw [literal_append] at hread ⊢
    simpa only [hof, List.nil_append] using readValue_obj hread

mutual

/-- Every value that texts keep exact is read back from what is printed. -/
theorem readsBack (hs : spacing.Separates) :
    ∀ j : Json, j.isExact = true → ReadsBack spacing j
  | .null, _ => fun _ _ _ _ => rfl
  | .bool true, _ => fun _ _ _ _ => rfl
  | .bool false, _ => fun _ _ _ _ => rfl
  | .int i, _ => fun budget _ _ hrest => readValue_intText i budget hrest
  | .float _, hexact | .foreign _ _, hexact => by cases hexact
  | .str s, _ => by
    intro budget rest _ _
    rw [print, literal_append, readValue, readLiteral_literal]
    rfl
  | .arr items, hexact => readsBack_arr hs hexact (readsBack_items hs items hexact)
  | .obj members, hexact => by
    obtain ⟨hkeys, hmembers⟩ := Bool.and_eq_true_iff.1 hexact
    exact readsBack_obj hs (of_decide_eq_true hkeys) hmembers
      (readsBack_members hs members hmembers)

theorem readsBack_items (hs : spacing.Separates) :
    ∀ items : List Json, itemsExact items = true → ∀ j ∈ items, ReadsBack spacing j
  | [], _ => List.forall_mem_nil _
  | item :: items, hexact => by
    obtain ⟨hitem, hitems⟩ := Bool.and_eq_true_iff.1 hexact
    exact List.forall_mem_cons.2 ⟨readsBack hs item hitem, readsBack_items hs items hitems⟩

theorem readsBack_members (hs : spacing.Separates) :
    ∀ members : List (String × Json), membersExact members = true →
      ∀ m ∈ members, ReadsBack spacing m.2
  | [], _ => List.forall_mem_nil _
  | (key, value) :: members, hexact => by
    obtain ⟨hvalue, hmembers⟩ := Bool.and_eq_true_iff.1 hexact
    exact List.forall_mem_cons.2
      ⟨readsBack hs value hvalue, readsBack_members hs members hmembers⟩

end

end ReadsBack

/-- The text of an exact value reads back as that value. -/
theorem parse_print {spacing : Spacing} (hs : spacing.Separates) {j : Json}
    (hj : j.isExact = true) : parse (print spacing j) = .ok j := by
  have hprintable := isPrintable_print hs j hj
  have hstart : skipSpace (print spacing j) = print spacing j := by
    simpa using skipSpace_print spacing hj []
  have hread := readsBack hs j hj (2 * (print spacing j).length) [] (by omega) (by simp [Ends])
  rw [List.append_nil] at hread
  unfold parse
  split
  · next tail hmark =>
    rw [hmark] at hprintable
    exact absurd (hprintable _ List.mem_cons_self) (by decide)
  · simp only [hstart, hread, bind, Except.bind]
    rfl

end SearchBuilder.Json
