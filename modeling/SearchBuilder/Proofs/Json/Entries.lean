import SearchBuilder.Document.Node

/-!
# Members after a change

What each operation on ordered members does to the value of a key, and to the members as a whole
where a value is set again or for the first time.
-/

namespace SearchBuilder

namespace Entries

variable {α : Type}

theorem mem_of_get? {m : Entries α} {key : String} {value : α} (h : get? m key = some value) :
    (key, value) ∈ m := by
  induction m with
  | nil => cases h
  | cons entry rest ih =>
    obtain ⟨k, v⟩ := entry
    unfold get? at h
    split at h
    · next hk =>
      cases h
      rw [hk]
      exact List.mem_cons_self
    · exact List.mem_cons_of_mem _ (ih h)

theorem get?_append_left {m : Entries α} {key : String} {value : α}
    (h : get? m key = some value) (rest : Entries α) : get? (m ++ rest) key = some value := by
  induction m with
  | nil => cases h
  | cons entry later ih =>
    obtain ⟨k, v⟩ := entry
    rw [List.cons_append]
    unfold get? at h ⊢
    split at h
    · next hk => rw [if_pos hk, h]
    · next hk => rw [if_neg hk, ih h]

@[simp] theorem get?_set_self (m : Entries α) (key : String) (value : α) :
    get? (set m key value) key = some value := by
  induction m with
  | nil => simp [set, get?]
  | cons entry rest ih =>
    obtain ⟨k, v⟩ := entry
    by_cases hk : k = key
    · simp [set, get?, hk]
    · simp only [set, hk, if_false]
      simp only [get?, hk, if_false]
      exact ih

theorem get?_set_of_ne (m : Entries α) {key other : String} (h : key ≠ other) (value : α) :
    get? (set m key value) other = get? m other := by
  induction m with
  | nil => simp [set, get?, h]
  | cons entry rest ih =>
    obtain ⟨k, v⟩ := entry
    by_cases hk : k = key
    · simp [set, get?, hk, h]
    · simp only [set, hk, if_false]
      simp only [get?]
      rw [ih]

/-- What is read after a value is set. -/
theorem get?_set (m : Entries α) (key other : String) (value : α) :
    get? (set m key value) other = if key = other then some value else get? m other := by
  by_cases h : key = other
  · subst h
    rw [get?_set_self, if_pos rfl]
  · rw [get?_set_of_ne m h, if_neg h]

/-- Setting a key to the value that it has changes nothing. -/
theorem set_of_get? {m : Entries α} {key : String} {value : α} (h : get? m key = some value) :
    set m key value = m := by
  induction m with
  | nil => cases h
  | cons entry rest ih =>
    obtain ⟨k, v⟩ := entry
    unfold get? at h
    split at h
    · next hk =>
      cases h
      simp [set, hk]
    · next hk =>
      simp only [set, hk, if_false]
      rw [ih h]

/-- A new key is put behind the others. -/
theorem set_of_absent {m : Entries α} {key : String} (h : get? m key = none) (value : α) :
    set m key value = m ++ [(key, value)] := by
  induction m with
  | nil => rfl
  | cons entry rest ih =>
    obtain ⟨k, v⟩ := entry
    unfold get? at h
    split at h
    · cases h
    · next hk =>
      simp only [set, hk, if_false]
      rw [ih h]
      rfl

theorem erase_cons (k key : String) (v : α) (rest : Entries α) :
    erase ((k, v) :: rest) key = if k = key then erase rest key else (k, v) :: erase rest key := by
  by_cases hk : k = key <;> simp [erase, hk]

theorem get?_erase_of_ne (m : Entries α) {key other : String} (h : key ≠ other) :
    get? (erase m key) other = get? m other := by
  induction m with
  | nil => rfl
  | cons entry rest ih =>
    obtain ⟨k, v⟩ := entry
    rw [erase_cons]
    split
    · next hk => rw [ih, get?, if_neg (hk ▸ h)]
    · rw [get?, get?, ih]

@[simp] theorem get?_erase_self (m : Entries α) (key : String) : get? (erase m key) key = none := by
  induction m with
  | nil => rfl
  | cons entry rest ih =>
    obtain ⟨k, v⟩ := entry
    rw [erase_cons]
    split
    · exact ih
    · next hk => rw [get?, if_neg hk, ih]

theorem contains_iff {m : Entries α} {key : String} :
    contains m key = true ↔ ∃ value, get? m key = some value := Option.isSome_iff_exists

theorem setDefault_of_get? {m : Entries α} {key : String} {value : α} (h : get? m key = some value)
    (start : α) : setDefault m key start = m := by
  simp [setDefault, contains, h]

theorem setDefault_of_absent {m : Entries α} {key : String} (h : get? m key = none) (start : α) :
    setDefault m key start = set m key start := by
  simp [setDefault, contains, h]

theorem merge_cons (m additions : Entries α) (key : String) (value : α) :
    merge m ((key, value) :: additions) = merge (set m key value) additions := rfl

/-- A value found after a merge was there before or is that of an addition. -/
theorem get?_merge {m additions : Entries α} {key : String} {value : α}
    (h : get? (merge m additions) key = some value) :
    get? m key = some value ∨ (key, value) ∈ additions := by
  induction additions generalizing m with
  | nil => exact .inl h
  | cons entry rest ih =>
    obtain ⟨k, v⟩ := entry
    rw [merge_cons] at h
    rcases ih h with hset | hmem
    · rw [get?_set] at hset
      split at hset
      · next hk =>
        cases hset
        subst hk
        exact .inr List.mem_cons_self
      · exact .inl hset
    · exact .inr (List.mem_cons_of_mem _ hmem)

/-- The last addition of a key decides its value; without one it keeps the value that it has. -/
theorem get?_merge_eq (m additions : Entries α) (key : String) :
    get? (merge m additions) key =
      ((additions.reverse.find? (·.1 = key)).map (·.2)).or (get? m key) := by
  induction additions generalizing m with
  | nil => rfl
  | cons entry rest ih =>
    obtain ⟨k, v⟩ := entry
    rw [merge_cons, ih, get?_set, List.reverse_cons, List.find?_append]
    cases rest.reverse.find? (·.1 = key) with
    | some last => rfl
    | none => by_cases hk : k = key <;> simp [hk]

/-- Setting a value keeps the keys, or puts a new one behind them. -/
theorem keys_set (m : Entries α) (key : String) (value : α) :
    (set m key value).map (·.1) =
      if key ∈ m.map (·.1) then m.map (·.1) else m.map (·.1) ++ [key] := by
  induction m with
  | nil => rfl
  | cons entry rest ih =>
    obtain ⟨k, v⟩ := entry
    by_cases hk : k = key
    · simp [set, hk]
    · have hmem : key ∈ k :: rest.map (·.1) ↔ key ∈ rest.map (·.1) := by simp [Ne.symm hk]
      simp only [set, if_neg hk, List.map_cons, ih, hmem]
      split <;> rfl

/-- Setting a value repeats no key. -/
theorem nodup_set {m : Entries α} (h : (m.map (·.1)).Nodup) (key : String) (value : α) :
    ((set m key value).map (·.1)).Nodup := by
  rw [keys_set]
  split
  · exact h
  · next habsent =>
    refine List.nodup_append.2 ⟨h, by simp, ?_⟩
    rintro other hother _ hkey rfl
    exact habsent (List.mem_singleton.1 hkey ▸ hother)

theorem removeAll_concat (names others : List String) (name : String) :
    names.removeAll (others ++ [name]) = (names.removeAll others).filter fun b => !b == name := by
  unfold List.removeAll
  rw [List.filter_filter]
  refine List.filter_congr fun b _ => ?_
  rw [List.elem_eq_mem, List.elem_eq_mem]
  by_cases hb : b = name <;> simp [hb]

/-- A merge adds the keys that are new, in the order of their first additions. -/
theorem keys_merge (m additions : Entries α) :
    (merge m additions).map (·.1) =
      m.map (·.1) ++ ((additions.map (·.1)).removeAll (m.map (·.1))).eraseDups := by
  induction additions generalizing m with
  | nil => simp [merge]
  | cons entry rest ih =>
    obtain ⟨k, v⟩ := entry
    rw [merge_cons, ih, keys_set, List.map_cons, List.cons_removeAll]
    by_cases hk : k ∈ m.map (·.1)
    · simp [hk]
    · rw [List.contains_eq_mem, if_neg hk, if_pos (decide_eq_false hk), removeAll_concat,
        List.eraseDups_cons, List.append_assoc]
      rfl

/-- New names of one list and then of another are the new names of both together. -/
theorem newNames_assoc (names middle last : List String) :
    (names ++ middle.filter (· ∉ names)) ++
        last.filter (· ∉ names ++ middle.filter (· ∉ names)) =
      names ++ (middle ++ last.filter (· ∉ middle)).filter (· ∉ names) := by
  rw [List.filter_append, List.append_assoc, List.filter_filter]
  refine congrArg (fun later => names ++ (List.filter _ middle ++ later)) ?_
  refine List.filter_congr fun name _ => ?_
  by_cases hname : name ∈ names <;> simp [hname]

/-- The keys of pairs come in the order in which they were first there. -/
theorem keys_ofList (pairs : List (String × α)) :
    (ofList pairs).map (·.1) = (pairs.map (·.1)).eraseDups := by
  have hkeys := keys_merge ([] : Entries α) pairs
  simpa [ofList] using hkeys

/-- The last of some pairs counts. -/
theorem get?_ofList (pairs : List (String × α)) (key : String) :
    get? (ofList pairs) key = (pairs.reverse.find? (·.1 = key)).map (·.2) := by
  rw [ofList, get?_merge_eq]
  exact Option.or_none

theorem get?_eq_none_iff {m : Entries α} {key : String} :
    get? m key = none ↔ key ∉ m.map (·.1) := by
  induction m with
  | nil => simp [get?]
  | cons entry rest ih =>
    obtain ⟨k, v⟩ := entry
    by_cases hk : k = key
    · simp [get?, hk]
    · simp [get?, hk, ih, Ne.symm hk]

/-- Where no key is repeated, a member is what is read under its key. -/
theorem mem_iff_get? {m : Entries α} (h : (m.map (·.1)).Nodup) {key : String} {value : α} :
    (key, value) ∈ m ↔ get? m key = some value := by
  refine ⟨fun hmem => ?_, mem_of_get?⟩
  induction m with
  | nil => cases hmem
  | cons entry rest ih =>
    obtain ⟨k, v⟩ := entry
    rw [List.map_cons, List.nodup_cons] at h
    rcases List.mem_cons.1 hmem with heq | hrest
    · cases heq
      simp [get?]
    · have hne : k ≠ key := by
        rintro rfl
        exact h.1 (List.mem_map_of_mem (f := fun entry => entry.1) hrest)
      rw [get?, if_neg hne]
      exact ih h.2 hrest

/-- Members with the same keys in the same order, and the same values under them, are the same. -/
theorem eq_of_get? {m m' : Entries α} (hkeys : m.map (·.1) = m'.map (·.1))
    (hnodup : (m.map (·.1)).Nodup) (hsame : ∀ key, get? m key = get? m' key) : m = m' := by
  induction m generalizing m' with
  | nil => exact (List.map_eq_nil_iff.1 hkeys.symm).symm
  | cons entry rest ih =>
    obtain ⟨key, value⟩ := entry
    cases m' with
    | nil => cases hkeys
    | cons entry' rest' =>
      obtain ⟨key', value'⟩ := entry'
      obtain ⟨rfl, hrest⟩ := List.cons.inj hkeys
      rw [List.map_cons, List.nodup_cons] at hnodup
      obtain rfl : value = value' := by simpa [get?] using hsame key
      refine congrArg (_ :: ·) (ih hrest hnodup.2 fun other => ?_)
      by_cases hother : key = other
      · rw [get?_eq_none_iff.2 (hother ▸ hnodup.1), get?_eq_none_iff.2 (hother ▸ hrest ▸ hnodup.1)]
      · simpa [get?, hother] using hsame other

/-- Additions whose keys are new and not repeated come after the others as they are. -/
theorem merge_of_nodup (m : Entries α) {additions : Entries α}
    (h : ((m ++ additions).map (·.1)).Nodup) : merge m additions = m ++ additions := by
  induction additions generalizing m with
  | nil => exact (List.append_nil m).symm
  | cons entry rest ih =>
    obtain ⟨k, v⟩ := entry
    have habsent : get? m k = none := by
      refine get?_eq_none_iff.2 fun hmem => ?_
      rw [List.map_append] at h
      exact (List.nodup_append.1 h).2.2 k hmem k (by simp) rfl
    have hsame : m ++ (k, v) :: rest = (m ++ [(k, v)]) ++ rest := by simp
    rw [merge_cons, set_of_absent habsent, ih _ (hsame ▸ h), hsame]

/-- Moving a key gives the new key what the old one had, and takes the old one away. -/
theorem get?_rekey {m : Entries α} {old new : String} (h : old ≠ new) (absent : α)
    (key : String) :
    get? (rekey m old new absent) key =
      if new = key then some ((get? m old).getD absent)
      else if old = key then none
      else get? m key := by
  rw [rekey, if_neg h, get?_set]
  by_cases hnew : new = key
  · rw [if_pos hnew, if_pos hnew]
  · rw [if_neg hnew, if_neg hnew]
    by_cases hold : old = key
    · subst hold
      rw [if_pos rfl, get?_erase_self]
    · rw [if_neg hold, get?_erase_of_ne m hold]

/-- What stood under the old key is read under the new one. -/
theorem get?_rekey_self {m : Entries α} {old : String} {value : α} (h : get? m old = some value)
    (new : String) (absent : α) : get? (rekey m old new absent) new = some value := by
  by_cases hsame : old = new
  · rw [rekey, if_pos hsame, ← hsame, h]
  · rw [get?_rekey hsame, if_pos rfl, h, Option.getD_some]

theorem get?_rekey_of_ne (m : Entries α) {old new key : String} (hold : old ≠ key)
    (hnew : new ≠ key) (absent : α) : get? (rekey m old new absent) key = get? m key := by
  by_cases hsame : old = new
  · rw [rekey, if_pos hsame]
  · rw [get?_rekey hsame, if_neg hnew, if_neg hold]

/-- A member that is alone and moves. -/
theorem rekey_one (old new : String) (value absent : α) :
    rekey [(old, value)] old new absent = [(new, value)] := by
  unfold rekey
  split
  · next hsame => rw [hsame]
  · simp [erase, set, get?]

theorem nodup_rekey {m : Entries α} (h : (m.map (·.1)).Nodup) (old new : String) (absent : α) :
    ((rekey m old new absent).map (·.1)).Nodup := by
  unfold rekey
  split
  · exact h
  · exact nodup_set (h.sublist (List.filter_sublist.map _)) new _

/-! ## What holds of all values -/

section Values

variable {P : α → Prop} {m : Entries α}

/-- What holds of all values and of a new one holds of all after it is set. -/
theorem forall_set (hm : ∀ entry ∈ m, P entry.2) (key : String) {value : α} (hvalue : P value) :
    ∀ entry ∈ set m key value, P entry.2 := by
  induction m with
  | nil =>
    intro entry hentry
    rw [List.mem_singleton.1 hentry]
    exact hvalue
  | cons first rest ih =>
    obtain ⟨k, v⟩ := first
    obtain ⟨hfirst, hrest⟩ := List.forall_mem_cons.1 hm
    unfold set
    split
    · exact List.forall_mem_cons.2 ⟨hvalue, hrest⟩
    · exact List.forall_mem_cons.2 ⟨hfirst, ih hrest⟩

/-- What holds of all values and of all additions holds of all after a merge. -/
theorem forall_merge {additions : Entries α} (hm : ∀ entry ∈ m, P entry.2)
    (hadditions : ∀ entry ∈ additions, P entry.2) :
    ∀ entry ∈ merge m additions, P entry.2 := by
  induction additions generalizing m with
  | nil => exact hm
  | cons first rest ih =>
    obtain ⟨hfirst, hrest⟩ := List.forall_mem_cons.1 hadditions
    exact ih (forall_set hm first.1 hfirst) hrest

theorem forall_setDefault (hm : ∀ entry ∈ m, P entry.2) (key : String) {start : α}
    (hstart : P start) : ∀ entry ∈ setDefault m key start, P entry.2 := by
  unfold setDefault
  split
  · exact hm
  · exact forall_set hm key hstart

theorem forall_erase (hm : ∀ entry ∈ m, P entry.2) (key : String) :
    ∀ entry ∈ erase m key, P entry.2 :=
  fun entry hentry => hm entry (List.mem_filter.1 hentry).1

theorem forall_rekey (hm : ∀ entry ∈ m, P entry.2) (old new : String) {absent : α}
    (habsent : P absent) : ∀ entry ∈ rekey m old new absent, P entry.2 := by
  unfold rekey
  split
  · exact hm
  · refine forall_set (forall_erase hm old) new ?_
    cases hold : get? m old with
    | none => exact habsent
    | some value => exact hm _ (mem_of_get? hold)

end Values

end Entries

/-! ## Objects -/

namespace Json

theorem eq_obj_of_members? {j : Json} {members : Entries Json} (h : j.members? = some members) :
    j = .obj members := by
  cases j <;> cases h
  rfl

theorem member_of_get? {members : Entries Json} {key : String} {value : Json}
    (h : Entries.get? members key = some value) : (Json.obj members).member key = value := by
  rw [member, h]
  rfl

theorem exists_obj_of_member {j value : Json} {key : String} (h : j.member key = value)
    (hvalue : value ≠ .null) : ∃ members, j = .obj members := by
  cases j with
  | obj members => exact ⟨members, rfl⟩
  | _ => exact absurd h.symm hvalue

theorem opens_one (members : Entries Json) (key : String) :
    (Json.obj members).opens [key] = true := by
  unfold opens
  split
  · rfl
  · rfl

/-- A path leads on from a member that is an object, and ends where there is none. -/
theorem opens_cons {members : Entries Json} {key : String} {rest : Path}
    (h : ∀ value, Entries.get? members key = some value → value.opens rest = true) :
    (Json.obj members).opens (key :: rest) = true := by
  unfold opens
  split
  · next value hvalue => exact h value hvalue
  · rfl

end Json

end SearchBuilder
