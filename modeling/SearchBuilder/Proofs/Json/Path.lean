import SearchBuilder.Document.Part
import SearchBuilder.Proofs.Json.Entries

/-!
# Values along paths

`Json.look` reads the last key of a path and `Json.put` sets it. What a path leads to is the same
after a put along another path, unless one of the two leads through the other
(`Json.look_put_of_apart`).
-/

namespace SearchBuilder

/-- Neither path leads through the other. -/
structure Path.Apart (p q : Path) : Prop where
  left : ¬ p <+: q
  right : ¬ q <+: p

theorem Path.Apart.symm {p q : Path} (h : p.Apart q) : q.Apart p := ⟨h.right, h.left⟩

theorem Path.apart_cons {p q : Path} {key key' : String} :
    Path.Apart (key :: p) (key' :: q) ↔ (key = key' → p.Apart q) := by
  refine ⟨?_, fun h => ⟨fun hpre => ?_, fun hpre => ?_⟩⟩
  · rintro ⟨hleft, hright⟩ rfl
    exact ⟨fun hpre => hleft (List.cons_prefix_cons.2 ⟨rfl, hpre⟩),
      fun hpre => hright (List.cons_prefix_cons.2 ⟨rfl, hpre⟩)⟩
  · obtain ⟨hkey, hpre⟩ := List.cons_prefix_cons.1 hpre
    exact (h hkey).left hpre
  · obtain ⟨hkey, hpre⟩ := List.cons_prefix_cons.1 hpre
    exact (h hkey.symm).right hpre

theorem Path.apart_of_ne (p : Path) {key key' : String} (h : key ≠ key') :
    Path.Apart (p ++ [key]) (p ++ [key']) := by
  induction p with
  | nil => exact Path.apart_cons.2 fun heq => absurd heq h
  | cons first rest ih => exact Path.apart_cons.2 fun _ => ih

namespace Json

/-- What the last key of a path holds, if anything; none if what lies on the way is no object. -/
def look : Json → Path → Option (Option Json)
  | .obj members, [key] => some (Entries.get? members key)
  | .obj members, key :: next :: rest => Entries.get? members key >>= (look · (next :: rest))
  | _, _ => none

/-- The value with the last key of a path set, if all that lies on the way is objects. -/
def put : Json → Path → Json → Json
  | .obj members, [key], value => .obj (Entries.set members key value)
  | .obj members, key :: next :: rest, value =>
    match Entries.get? members key with
    | some inside => .obj (Entries.set members key (put inside (next :: rest) value))
    | none => .obj members
  | j, _, _ => j

theorem look_of_scalar {j : Json} (h : j.members? = none) (p : Path) : j.look p = none := by
  unfold look
  split
  · cases h
  · cases h
  · rfl

theorem look_one (members : Entries Json) (key : String) :
    (Json.obj members).look [key] = some (Entries.get? members key) := rfl

theorem look_cons (members : Entries Json) (key : String) {rest : Path} (h : rest ≠ []) :
    (Json.obj members).look (key :: rest) = (Entries.get? members key).bind (·.look rest) := by
  cases rest with
  | nil => exact absurd rfl h
  | cons next rest => rfl

/-- A path leads on through the member under its first key. -/
theorem look_member (j : Json) (key : String) {rest : Path} (h : rest ≠ []) :
    j.look (key :: rest) = (j.member key).look rest := by
  cases hj : j.members? with
  | none =>
    have hmember : j.member key = .null := by
      cases j with
      | obj members => cases hj
      | _ => rfl
    rw [look_of_scalar hj, hmember, look_of_scalar rfl]
  | some members =>
    obtain rfl := eq_obj_of_members? hj
    rw [look_cons _ _ h, member]
    cases Entries.get? members key with
    | none => exact (look_of_scalar rfl rest).symm
    | some inside => rfl

theorem put_cons_of_some {members : Entries Json} {key : String} {inside : Json} {rest : Path}
    (h : rest ≠ []) (hinside : Entries.get? members key = some inside) (value : Json) :
    (Json.obj members).put (key :: rest) value =
      .obj (Entries.set members key (inside.put rest value)) := by
  cases rest with
  | nil => exact absurd rfl h
  | cons next rest => simp only [put, hinside]

theorem put_cons_of_none {members : Entries Json} {key : String} {rest : Path}
    (h : rest ≠ []) (hinside : Entries.get? members key = none) (value : Json) :
    (Json.obj members).put (key :: rest) value = .obj members := by
  cases rest with
  | nil => exact absurd rfl h
  | cons next rest => simp only [put, hinside]

/-- A put below a member that is an object changes that member. -/
theorem put_member {j : Json} {key : String} {members : Entries Json}
    (h : j.member key = .obj members) {rest : Path} (hrest : rest ≠ []) (value : Json) :
    j.put (key :: rest) value = j.setMember key ((j.member key).put rest value) := by
  cases j with
  | obj outer =>
    rw [h]
    refine put_cons_of_some hrest ?_ value
    rw [member] at h
    cases hget : Entries.get? outer key with
    | none =>
      rw [hget] at h
      cases h
    | some inside =>
      rw [hget] at h
      exact congrArg some h
  | _ => cases h

/-- A put finds its way or changes nothing. -/
theorem put_of_look {j : Json} {p : Path} (h : j.look p = none) (value : Json) :
    j.put p value = j := by
  fun_induction put j p value with
  | case1 => cases h
  | case2 members key next rest value inside hinside ih =>
    rw [look_cons _ _ (List.cons_ne_nil _ _), hinside] at h
    rw [ih h, Entries.set_of_get? hinside]
  | case3 => rfl
  | case4 => rfl

/-- Putting what is there changes nothing. -/
theorem put_same {j value : Json} {p : Path} (h : j.look p = some (some value)) :
    j.put p value = j := by
  fun_induction put j p value with
  | case1 =>
    rw [look_one] at h
    rw [Entries.set_of_get? (Option.some.inj h)]
  | case2 members key next rest value inside hinside ih =>
    rw [look_cons _ _ (List.cons_ne_nil _ _), hinside] at h
    rw [ih h, Entries.set_of_get? hinside]
  | case3 => rfl
  | case4 => rfl

theorem look_put_self {j : Json} {p : Path} {held : Option Json} (h : j.look p = some held)
    (value : Json) : (j.put p value).look p = some (some value) := by
  fun_induction put j p value with
  | case1 => rw [look_one, Entries.get?_set_self]
  | case2 members key next rest value inside hinside ih =>
    rw [look_cons _ _ (List.cons_ne_nil _ _), hinside] at h
    rw [look_cons _ _ (List.cons_ne_nil _ _), Entries.get?_set_self]
    exact ih h
  | case3 members key next rest value hinside =>
    rw [look_cons _ _ (List.cons_ne_nil _ _), hinside] at h
    cases h
  | case4 j p value hone hmore =>
    unfold look at h
    split at h
    · exact absurd rfl (hone _ _ rfl)
    · exact absurd rfl (hmore _ _ _ _ rfl)
    · cases h

/-- Setting one key leaves alone what paths through other keys lead to. -/
theorem look_set_of_ne (members : Entries Json) {key key' : String} (h : key ≠ key') (value : Json)
    (rest : Path) : (Json.obj (Entries.set members key value)).look (key' :: rest) =
      (Json.obj members).look (key' :: rest) := by
  cases rest with
  | nil => rw [look_one, look_one, Entries.get?_set_of_ne members h]
  | cons next rest =>
    rw [look_cons _ _ (List.cons_ne_nil _ _), look_cons _ _ (List.cons_ne_nil _ _),
      Entries.get?_set_of_ne members h]

theorem look_put_of_apart (j : Json) {p q : Path} (h : p.Apart q) (value : Json) :
    (j.put p value).look q = j.look q := by
  cases q with
  | nil => exact absurd List.nil_prefix h.right
  | cons key' rest' =>
    fun_induction put j p value generalizing key' rest' with
    | case1 members key value =>
      have hne : key ≠ key' := fun heq => (Path.apart_cons.1 h heq).left List.nil_prefix
      exact look_set_of_ne members hne value rest'
    | case2 members key next rest value inside hinside ih =>
      by_cases hkey : key = key'
      · subst hkey
        have hapart := Path.apart_cons.1 h rfl
        obtain ⟨next', rest', rfl⟩ : ∃ next' rest'', rest' = next' :: rest'' := by
          refine List.exists_cons_of_ne_nil fun hnil => ?_
          subst hnil
          exact hapart.right List.nil_prefix
        rw [look_cons _ _ (List.cons_ne_nil _ _), look_cons _ _ (List.cons_ne_nil _ _),
          Entries.get?_set_self, hinside]
        exact ih _ _ hapart
      · exact look_set_of_ne members hkey _ rest'
    | case3 => rfl
    | case4 => rfl

/-- A put into an object touches the first key of the path only, and takes nothing away. -/
theorem put_obj (members : Entries Json) (key : String) (rest : Path) (value : Json) :
    ∃ members', (Json.obj members).put (key :: rest) value = .obj members' ∧
      (∀ other, key ≠ other → Entries.get? members' other = Entries.get? members other) ∧
      (Entries.get? members key ≠ none → Entries.get? members' key ≠ none) := by
  have hset (inside : Json) : ∃ members',
      Json.obj (Entries.set members key inside) = .obj members' ∧
      (∀ other, key ≠ other → Entries.get? members' other = Entries.get? members other) ∧
      (Entries.get? members key ≠ none → Entries.get? members' key ≠ none) :=
    ⟨_, rfl, fun other hne => Entries.get?_set_of_ne members hne inside,
      fun _ => by rw [Entries.get?_set_self]; exact Option.some_ne_none _⟩
  cases rest with
  | nil => exact hset value
  | cons next rest =>
    cases hinside : Entries.get? members key with
    | none =>
      rw [put_cons_of_none (List.cons_ne_nil _ _) hinside]
      exact ⟨members, rfl, fun _ _ => rfl, fun h => absurd rfl h⟩
    | some inside =>
      rw [put_cons_of_some (List.cons_ne_nil _ _) hinside, ← hinside]
      exact hset _

/-! ## Parts -/

theorem part?_cons (members : Entries Json) (key : String) (rest : Path) :
    (obj members).part? (key :: rest) = (Entries.get? members key).bind (·.part? rest) := by
  rw [part?]
  cases Entries.get? members key <;> rfl

theorem part?_plain {j : Json} (h : j.members? = none) (key : String) (rest : Path) :
    j.part? (key :: rest) = none := by
  cases j with
  | obj members => cases h
  | _ => rfl

/-- The part at a path is what the path leads to. -/
theorem part?_eq_look (j : Json) {p : Path} (hp : p ≠ []) : j.part? p = (j.look p).join := by
  induction p generalizing j with
  | nil => exact absurd rfl hp
  | cons key rest ih =>
    cases hj : j.members? with
    | none =>
      rw [look_of_scalar hj]
      cases j with
      | obj members => cases hj
      | _ => rfl
    | some members =>
      obtain rfl := eq_obj_of_members? hj
      simp only [part?]
      rcases Decidable.em (rest = []) with rfl | hrest
      · rw [look_one]
        cases Entries.get? members key <;> rfl
      · rw [look_cons _ _ hrest]
        cases Entries.get? members key with
        | none => rfl
        | some inside => exact ih inside hrest

/-- Values that look the same at a key are the same further along. -/
theorem opens_part?_congr {j j' : Json} {key : String} (h : j.look [key] = j'.look [key])
    (rest : Path) : j.opens (key :: rest) = j'.opens (key :: rest) ∧
      j.part? (key :: rest) = j'.part? (key :: rest) := by
  cases hj : j.members? with
  | none =>
    cases hj' : j'.members? with
    | none =>
      have hscalar {j : Json} (h : j.members? = none) :
          j.opens (key :: rest) = false ∧ j.part? (key :: rest) = none := by
        cases j with
        | obj members => cases h
        | _ => exact ⟨rfl, rfl⟩
      rw [(hscalar hj).1, (hscalar hj).2, (hscalar hj').1, (hscalar hj').2]
      exact ⟨rfl, rfl⟩
    | some members =>
      obtain rfl := eq_obj_of_members? hj'
      rw [look_of_scalar hj, look_one] at h
      cases h
  | some members =>
    obtain rfl := eq_obj_of_members? hj
    cases hj' : j'.members? with
    | none =>
      rw [look_of_scalar hj', look_one] at h
      cases h
    | some members' =>
      obtain rfl := eq_obj_of_members? hj'
      rw [look_one, look_one] at h
      simp only [opens, part?, Option.some.inj h, and_self]

end Json

end SearchBuilder
