import Mathlib.Data.List.Nodup
import SearchBuilder.Document.Combine
import SearchBuilder.Proofs.Json.Entries

/-!
# Extending objects

Objects are merged into a target one after the other. The last object that has a key decides its
value, and the keys stand in the order in which they were first there, those of the target before
all others (`Json.extend_merges`). So two objects may as well be merged first, a second merge of the
same object changes nothing, and objects without a common key can be merged in either order.

Two merges are compared by the keys and by the value of each key (`Entries.eq_of_get?`), so the laws
of merging are those of `Option.or` and of lists of keys.
-/

namespace SearchBuilder

namespace Entries

variable {α : Type} {m m' additions : Entries α}

/-- Members that hold the same under every key differ in their order at most. -/
theorem perm_of_get? (h : (m.map (·.1)).Nodup) (h' : (m'.map (·.1)).Nodup)
    (hsame : ∀ key, get? m key = get? m' key) : m.Perm m' := by
  refine (List.perm_ext_iff_of_nodup (.of_map _ h) (.of_map _ h')).2 fun entry => ?_
  obtain ⟨key, value⟩ := entry
  rw [mem_iff_get? h, mem_iff_get? h', hsame]

/-! ## Merging one object -/

theorem nodup_merge (h : (m.map (·.1)).Nodup) (additions : Entries α) :
    ((merge m additions).map (·.1)).Nodup := by
  induction additions generalizing m with
  | nil => exact h
  | cons entry rest ih => exact ih (nodup_set h entry.1 entry.2)

/-- What is added decides, if no key is added twice. -/
theorem get?_merge_of_nodup (m : Entries α) (h : (additions.map (·.1)).Nodup) (key : String) :
    get? (merge m additions) key = (get? additions key).or (get? m key) := by
  have hlast : (additions.reverse.find? (·.1 = key)).map (·.2) = get? additions key := by
    rw [← get?_ofList, ofList, merge_of_nodup [] h, List.nil_append]
  rw [get?_merge_eq, hlast]

theorem eraseDups_of_nodup {names : List String} (h : names.Nodup) : names.eraseDups = names := by
  induction names with
  | nil => rfl
  | cons name rest ih =>
    rw [List.nodup_cons] at h
    have hrest : (rest.filter fun other => !other == name) = rest := by
      refine List.filter_eq_self.2 fun other hother => ?_
      have hne : other ≠ name := fun heq => h.1 (heq ▸ hother)
      simpa using hne
    rw [List.eraseDups_cons, hrest, ih h.2]

/-- The keys that are there come first, then the new ones. -/
theorem keys_merge_of_nodup (m : Entries α) (h : (additions.map (·.1)).Nodup) :
    (merge m additions).map (·.1) =
      m.map (·.1) ++ (additions.map (·.1)).filter (· ∉ m.map (·.1)) := by
  have hnew : (additions.map (·.1)).removeAll (m.map (·.1)) =
      (additions.map (·.1)).filter (· ∉ m.map (·.1)) :=
    List.filter_congr fun key _ => by simp
  rw [keys_merge, hnew, eraseDups_of_nodup (h.sublist List.filter_sublist)]

/-- Additions may be merged with each other first. -/
theorem merge_assoc {a b : Entries α} (hm : (m.map (·.1)).Nodup) (ha : (a.map (·.1)).Nodup)
    (hb : (b.map (·.1)).Nodup) : merge (merge m a) b = merge m (merge a b) := by
  have hab := nodup_merge ha b
  refine eq_of_get? ?_ (nodup_merge (nodup_merge hm a) b) fun key => ?_
  · rw [keys_merge_of_nodup _ hb, keys_merge_of_nodup _ ha, keys_merge_of_nodup _ hab,
      keys_merge_of_nodup _ hb, newNames_assoc]
  · rw [get?_merge_of_nodup _ hb, get?_merge_of_nodup _ ha, get?_merge_of_nodup _ hab,
      get?_merge_of_nodup _ hb, Option.or_assoc]

theorem merge_self (hm : (m.map (·.1)).Nodup) : merge m m = m := by
  refine eq_of_get? ?_ (nodup_merge hm m) fun key => ?_
  · rw [keys_merge_of_nodup _ hm]
    simp
  · rw [get?_merge_of_nodup _ hm, Option.or_self]

theorem merge_merge_self {a : Entries α} (hm : (m.map (·.1)).Nodup) (ha : (a.map (·.1)).Nodup) :
    merge (merge m a) a = merge m a := by
  rw [merge_assoc hm ha ha, merge_self ha]

/-- Additions without a common key come to the same members in either order. -/
theorem merge_perm {a b : Entries α} (hm : (m.map (·.1)).Nodup) (ha : (a.map (·.1)).Nodup)
    (hb : (b.map (·.1)).Nodup) (hapart : ∀ key ∈ a.map (·.1), key ∉ b.map (·.1)) :
    (merge (merge m a) b).Perm (merge (merge m b) a) := by
  have hone (key : String) : get? a key = none ∨ get? b key = none := by
    rw [get?_eq_none_iff, get?_eq_none_iff]
    exact Decidable.or_iff_not_imp_left.2 fun hkey => hapart key (Decidable.not_not.1 hkey)
  refine perm_of_get? (nodup_merge (nodup_merge hm a) b) (nodup_merge (nodup_merge hm b) a)
    fun key => ?_
  rw [get?_merge_of_nodup _ hb, get?_merge_of_nodup _ ha, get?_merge_of_nodup _ ha,
    get?_merge_of_nodup _ hb]
  rcases hone key with hkey | hkey <;> rw [hkey, Option.none_or, Option.none_or]

/-! ## Merging many objects -/

/-- The last of several objects that has a key decides its value. -/
theorem get?_foldl_merge (m : Entries α) {layers : List (Entries α)}
    (h : ∀ layer ∈ layers, (layer.map (·.1)).Nodup) (key : String) :
    get? (layers.foldl merge m) key = (m :: layers).reverse.findSome? (get? · key) := by
  induction layers generalizing m with
  | nil => simp
  | cons layer rest ih =>
    obtain ⟨hlayer, hrest⟩ := List.forall_mem_cons.1 h
    rw [List.foldl_cons, ih _ hrest]
    simp only [List.reverse_cons, List.append_assoc, List.findSome?_append]
    simp [get?_merge_of_nodup m hlayer]

/-- New keys follow in the order in which the objects have them first. -/
theorem keys_foldl_merge (m : Entries α) (layers : List (Entries α)) :
    (layers.foldl merge m).map (·.1) =
      m.map (·.1) ++
        ((layers.flatMap fun layer => layer.map (·.1)).removeAll (m.map (·.1))).eraseDups := by
  have hflat : layers.foldl merge m = merge m layers.flatten := List.foldl_flatten.symm
  rw [hflat, keys_merge, List.map_flatten, List.flatMap]

end Entries

/-! ## Extending -/

namespace Json

/-- Objects are merged into an object, whatever they hold. -/
theorem extend_objects (target : Entries Json) (additions : List (Entries Json)) :
    (obj target).extend (additions.map .obj) =
      .ok (.obj (additions.foldl Entries.merge target)) := by
  induction additions generalizing target with
  | nil => rfl
  | cons addition rest ih =>
    rw [List.map_cons, List.foldl_cons, ← ih]
    cases addition <;> rfl

/-- Objects can be merged into a target, and the last object that has a key decides its value. The
keys of the target come first, as they were, and the others follow, each once, in the order in which
they are first there. Two objects may be merged with each other before, a second merge of the same
object changes nothing, and objects without a common key come to the same members in either order.
-/
theorem extend_merges {target : Entries Json} (htarget : (target.map (·.1)).Nodup) :
    (∀ additions : List (Entries Json), (∀ a ∈ additions, (a.map (·.1)).Nodup) →
      ∃ merged, (obj target).extend (additions.map .obj) = .ok (.obj merged) ∧
        (∀ key, Entries.get? merged key =
          (target :: additions).reverse.findSome? (Entries.get? · key)) ∧
        merged.map (·.1) = target.map (·.1) ++
          ((additions.flatMap fun a => a.map (·.1)).removeAll (target.map (·.1))).eraseDups) ∧
      ∀ a b : Entries Json, (a.map (·.1)).Nodup → (b.map (·.1)).Nodup →
        (obj target).extend [.obj a, .obj b] =
            ((obj a).extend [.obj b]).bind (fun both => (obj target).extend [both]) ∧
          ((obj target).extend [.obj a]).bind (·.extend [.obj a]) =
            (obj target).extend [.obj a] ∧
          ((∀ key ∈ a.map (·.1), key ∉ b.map (·.1)) →
            ∃ ab ba, ((obj target).extend [.obj a]).bind (·.extend [.obj b]) = .ok (.obj ab) ∧
              ((obj target).extend [.obj b]).bind (·.extend [.obj a]) = .ok (.obj ba) ∧
              ab.Perm ba) := by
  have hone (m a : Entries Json) : (obj m).extend [.obj a] = .ok (.obj (Entries.merge m a)) :=
    extend_objects m [a]
  refine ⟨fun additions hadditions => ?_, fun a b ha hb => ⟨?_, ?_, fun hapart => ?_⟩⟩
  · exact ⟨_, extend_objects target additions, Entries.get?_foldl_merge target hadditions,
      Entries.keys_foldl_merge target additions⟩
  · have htwo : (obj target).extend [.obj a, .obj b] =
        .ok (.obj (Entries.merge (Entries.merge target a) b)) := extend_objects target [a, b]
    rw [htwo, Entries.merge_assoc htarget ha hb, hone]
    exact (hone target (Entries.merge a b)).symm
  · rw [hone]
    change (obj (Entries.merge target a)).extend [.obj a] = _
    rw [hone, Entries.merge_merge_self htarget ha]
  · refine ⟨_, _, ?_, ?_, Entries.merge_perm htarget ha hb hapart⟩
    · rw [hone]
      exact hone (Entries.merge target a) b
    · rw [hone]
      exact hone (Entries.merge target b) a

/-- A key of the target that is set again stays first, and a new one that is set twice stays where
it was first. -/
theorem extend_merges_overlapping :
    let target : Entries Json := [("size", .int 1), ("from", .int 0)]
    let first : Entries Json := [("sort", .str "age"), ("size", .int 2)]
    let second : Entries Json := [("sort", .str "name"), ("explain", .bool true)]
    let apart : Entries Json := [("explain", .bool true), ("from", .int 5)]
    (∃ merged, (obj target).extend [.obj first, .obj second] = .ok (.obj merged) ∧
        Entries.get? merged "size" = some (.int 2) ∧
        Entries.get? merged "sort" = some (.str "name") ∧
        merged.map (·.1) = ["size", "from", "sort", "explain"]) ∧
      (obj target).extend [.obj first, .obj second] =
        ((obj first).extend [.obj second]).bind (fun both => (obj target).extend [both]) ∧
      ∃ ab ba, ((obj target).extend [.obj first]).bind (·.extend [.obj apart]) = .ok (.obj ab) ∧
        ((obj target).extend [.obj apart]).bind (·.extend [.obj first]) = .ok (.obj ba) ∧
        ab.Perm ba ∧ ab.map (·.1) ≠ ba.map (·.1) := by
  intro target first second apart
  have htarget : (target.map (·.1)).Nodup := by decide
  have hfirst : (first.map (·.1)).Nodup := by decide
  have hsecond : (second.map (·.1)).Nodup := by decide
  have hapart : (apart.map (·.1)).Nodup := by decide
  obtain ⟨hmerges, hlaws⟩ := extend_merges htarget
  obtain ⟨merged, hmerged, hvalues, hkeys⟩ := hmerges [first, second] (by simp [hfirst, hsecond])
  obtain ⟨ab, ba, hab, hba, hperm⟩ := (hlaws first apart hfirst hapart).2.2 (by decide)
  refine ⟨⟨merged, hmerged, hvalues "size", hvalues "sort", hkeys.trans (by decide)⟩,
    (hlaws first second hfirst hsecond).1, ab, ba, hab, hba, hperm, ?_⟩
  cases hab
  cases hba
  decide

end Json

end SearchBuilder
