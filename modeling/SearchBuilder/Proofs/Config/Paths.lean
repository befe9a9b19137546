import SearchBuilder.Proofs.Config.Layers
import SearchBuilder.Proofs.Json.Path

/-!
# Layers along paths

A mapping laid over another is told by its paths (`part?_mergeSettings`): what the upper one has at
a path counts, merged with what the lower one has there if both are mappings; where the upper one
has nothing, the lower one shows through unless a plain value of the upper one stands in the way.
The keys of a level are those of the lower mapping and then the new ones of the upper.

Mappings with the same keys and the same values are the same, so laws of layers are laws about the
values of one key (`layered`). Three layers may be grouped either way exactly if no plain value of
the middle one parts a mapping above from one below that shows under it (`mergeSettings_assoc_iff`).
-/

namespace SearchBuilder

/-! ## Mappings without repeated keys -/

mutual

/-- Whether no mapping repeats a key, however deep it lies inside other mappings. -/
def Json.isDistinct : Json → Bool
  | .obj members => decide (members.map (·.1)).Nodup && Json.membersDistinct members
  | _ => true

def Json.membersDistinct : List (String × Json) → Bool
  | [] => true
  | (_, value) :: rest => value.isDistinct && Json.membersDistinct rest

end

namespace Json

theorem membersDistinct_iff {members : Entries Json} :
    membersDistinct members = true ↔ ∀ entry ∈ members, entry.2.isDistinct = true := by
  induction members with
  | nil => simp [membersDistinct]
  | cons entry rest ih =>
    obtain ⟨key, value⟩ := entry
    rw [membersDistinct, Bool.and_eq_true, ih, List.forall_mem_cons]

/-- A mapping repeats no key if neither its own keys repeat nor those inside of it. -/
theorem isDistinct_obj_iff {members : Entries Json} :
    (obj members).isDistinct = true ↔ (members.map (·.1)).Nodup ∧
      ∀ key value, Entries.get? members key = some value → value.isDistinct = true := by
  rw [isDistinct, Bool.and_eq_true, decide_eq_true_eq, membersDistinct_iff]
  refine and_congr_right fun hnodup => ⟨fun h key value hvalue => ?_, fun h entry hentry => ?_⟩
  · exact h _ (Entries.mem_of_get? hvalue)
  · exact h _ _ ((Entries.mem_iff_get? hnodup).1 hentry)

theorem nodup_of_isDistinct {members : Entries Json} (h : (obj members).isDistinct = true) :
    (members.map (·.1)).Nodup := (isDistinct_obj_iff.1 h).1

theorem isDistinct_of_get? {members : Entries Json} (h : (obj members).isDistinct = true)
    {key : String} {value : Json} (hvalue : Entries.get? members key = some value) :
    value.isDistinct = true := (isDistinct_obj_iff.1 h).2 key value hvalue

/-! ## Paths -/

/-- A part of a value without repeated keys has none. -/
theorem isDistinct_of_part? {j value : Json} {p : Path} (h : j.isDistinct = true)
    (hvalue : j.part? p = some value) : value.isDistinct = true := by
  induction p generalizing j with
  | nil => exact Option.some.inj hvalue ▸ h
  | cons key rest ih =>
    cases hj : j.members? with
    | none =>
      rw [part?_plain hj] at hvalue
      cases hvalue
    | some members =>
      obtain rfl := eq_obj_of_members? hj
      rw [part?_cons, Option.bind_eq_some_iff] at hvalue
      obtain ⟨inside, hinside, hrest⟩ := hvalue
      exact ih (isDistinct_of_get? h hinside) hrest

/-- A path is open unless it leads on from a plain value. -/
theorem opens_iff {j : Json} {p : Path} :
    j.opens p = true ↔
      ∀ q, q <+: p → q ≠ p → ∀ value, j.part? q = some value → value.members? ≠ none := by
  induction p generalizing j with
  | nil =>
    refine ⟨fun _ q hq hne => ?_, fun _ => rfl⟩
    exact absurd (List.prefix_nil.1 hq) hne
  | cons key rest ih =>
    cases hj : j.members? with
    | none =>
      have hopens : j.opens (key :: rest) = false := by
        cases j with
        | obj members => cases hj
        | _ => rfl
      rw [hopens]
      refine ⟨fun h => absurd h Bool.false_ne_true, fun h => ?_⟩
      exact absurd hj (h [] List.nil_prefix (List.cons_ne_nil key rest).symm j rfl)
    | some members =>
      obtain rfl := eq_obj_of_members? hj
      refine ⟨fun h q hq hne value hvalue => ?_, fun h => opens_cons fun inside hinside => ?_⟩
      · cases q with
        | nil =>
          cases hvalue
          exact Option.some_ne_none _
        | cons key' q =>
          obtain ⟨rfl, hrest⟩ := List.cons_prefix_cons.1 hq
          rw [part?_cons, Option.bind_eq_some_iff] at hvalue
          obtain ⟨inside, hinside, hvalue⟩ := hvalue
          simp only [opens, hinside] at h
          exact ih.1 h q hrest (fun heq => hne (heq ▸ rfl)) value hvalue
      · refine ih.2 fun q hq hne value hvalue => ?_
        refine h (key :: q) (List.cons_prefix_cons.2 ⟨rfl, hq⟩)
          (fun heq => hne (List.cons.inj heq).2) value ?_
        rw [part?_cons, hinside]
        exact hvalue

end Json

/-! ## One key -/

/-- What two layers have under a key. -/
def layered (lower? upper? : Option Json) : Option Json :=
  upper?.elim lower? fun upper => some (overlaid lower? upper)

/-- A value that is no mapping replaces what is below it. -/
theorem overlaid_plain (lower? : Option Json) {value : Json} (h : value.members? = none) :
    overlaid lower? value = value := by
  cases value with
  | obj members => cases h
  | _ => cases lower? with
    | none => rfl
    | some lower => cases lower <;> rfl

theorem overlaid_unmapped {lower? : Option Json} (h : lower?.bind Json.members? = none)
    (value : Json) : overlaid lower? value = value := by
  cases lower? with
  | none => cases value <;> rfl
  | some lower =>
    cases lower with
    | obj members => cases h
    | _ => cases value <;> rfl

section

variable (base : Entries Json) {override : Entries Json}
  (hnodup : (override.map (·.1)).Nodup)

include hnodup

/-- A key of merged settings is layered from the keys below and above. -/
theorem get?_mergeSettings_eq (key : String) :
    Entries.get? (mergeSettings base override) key =
      layered (Entries.get? base key) (Entries.get? override key) := by
  cases hkey : Entries.get? override key with
  | none => exact get?_mergeSettings_of_absent base (Entries.get?_eq_none_iff.1 hkey)
  | some value => exact get?_mergeSettings base hnodup hkey

/-- The keys of the lower mapping come first, then the new ones of the upper. -/
theorem keys_mergeSettings :
    (mergeSettings base override).map (·.1) =
      base.map (·.1) ++ (override.map (·.1)).filter (· ∉ base.map (·.1)) := by
  induction override generalizing base with
  | nil => simp [mergeSettings]
  | cons entry rest ih =>
    obtain ⟨key, value⟩ := entry
    rw [List.map_cons, List.nodup_cons] at hnodup
    rw [mergeSettings_cons, ih _ hnodup.2, Entries.keys_set, List.map_cons]
    by_cases hkey : key ∈ base.map (·.1)
    · rw [if_pos hkey, List.filter_cons_of_neg (by simpa using hkey)]
    · rw [if_neg hkey, List.filter_cons_of_pos (by simpa using hkey), List.append_assoc]
      refine congrArg (base.map (·.1) ++ key :: ·) (List.filter_congr fun other hother => ?_)
      have hne : other ≠ key := fun heq => hnodup.1 (heq ▸ hother)
      simp [hne]

end

/-- A path through two layers. -/
theorem part?_mergeSettings (base : Entries Json) {override : Entries Json}
    (hdistinct : (Json.obj override).isDistinct = true) (p : Path) :
    (Json.obj (mergeSettings base override)).part? p =
      match (Json.obj override).part? p with
      | some value => some (overlaid ((Json.obj base).part? p) value)
      | none => if (Json.obj override).opens p then (Json.obj base).part? p else none := by
  induction p generalizing base override with
  | nil => rfl
  | cons key rest ih =>
    rw [Json.part?_cons, Json.part?_cons, Json.part?_cons,
      get?_mergeSettings_eq base (Json.nodup_of_isDistinct hdistinct)]
    cases hupper : Entries.get? override key with
    | none => simp [layered, Json.opens, hupper]
    | some value =>
      have hopens : (Json.obj override).opens (key :: rest) = value.opens rest := by
        simp only [Json.opens, hupper]
      rw [hopens]
      change (overlaid (Entries.get? base key) value).part? rest = match value.part? rest with
        | some inside => _
        | none => _
      cases hplain : value.members? with
      | none =>
        rw [overlaid_plain _ hplain]
        cases rest with
        | nil => exact congrArg some (overlaid_plain _ hplain).symm
        | cons next rest =>
          have hclosed : value.opens (next :: rest) = false := by
            cases value with
            | obj members => cases hplain
            | _ => rfl
          simp [Json.part?_plain hplain, hclosed]
      | some upper =>
        obtain rfl := Json.eq_obj_of_members? hplain
        cases hlower : (Entries.get? base key).bind Json.members? with
        | some lower =>
          obtain ⟨below, hbelow, hmembers⟩ := Option.bind_eq_some_iff.1 hlower
          obtain rfl := Json.eq_obj_of_members? hmembers
          rw [hbelow]
          exact ih lower (Json.isDistinct_of_get? hdistinct hupper)
        | none =>
          -- Nothing of the lower layer is to be found below a key that is no mapping there.
          have hbelow : ((Entries.get? base key).bind (·.part? rest)).bind Json.members? = none ∧
              (rest ≠ [] → (Entries.get? base key).bind (·.part? rest) = none) := by
            cases hget : Entries.get? base key with
            | none => exact ⟨rfl, fun _ => rfl⟩
            | some below =>
              rw [hget] at hlower
              cases rest with
              | nil => exact ⟨hlower, fun hne => absurd rfl hne⟩
              | cons next rest =>
                have hnone : below.part? (next :: rest) = none := Json.part?_plain hlower next rest
                exact ⟨by rw [Option.bind_some, hnone]; rfl, fun _ => hnone⟩
          rw [overlaid_unmapped hlower]
          cases hinside : (Json.obj upper).part? rest with
          | some inside => exact congrArg some (overlaid_unmapped hbelow.1 inside).symm
          | none =>
            have hrest : rest ≠ [] := by
              rintro rfl
              cases hinside
            rw [hbelow.2 hrest]
            exact (ite_self none).symm

/-! ## Laws -/

theorem Entries.sizeOf_lt_of_get? {m inside : Entries Json} {key : String}
    (h : Entries.get? m key = some (.obj inside)) : sizeOf inside < sizeOf m := by
  have hentry := List.sizeOf_lt_of_mem (Entries.mem_of_get? h)
  simp only [Prod.mk.sizeOf_spec, Json.obj.sizeOf_spec] at hentry
  omega

/-- What holds of a mapping if it holds of the mappings under its keys holds of every mapping. -/
theorem Entries.mapping_induction {motive : Entries Json → Prop}
    (step : ∀ m, (∀ key inside, Entries.get? m key = some (.obj inside) → motive inside) → motive m)
    (m : Entries Json) : motive m :=
  step m fun _ inside _ => mapping_induction step inside
termination_by sizeOf m
decreasing_by exact Entries.sizeOf_lt_of_get? ‹_›

/-- Merging settings repeats no key. -/
theorem nodup_mergeSettings {base override : Entries Json} (hbase : (base.map (·.1)).Nodup)
    (hoverride : (override.map (·.1)).Nodup) : ((mergeSettings base override).map (·.1)).Nodup := by
  rw [keys_mergeSettings base hoverride]
  refine List.nodup_append.2 ⟨hbase, hoverride.sublist List.filter_sublist, ?_⟩
  rintro key hkey _ hother rfl
  exact absurd hkey (of_decide_eq_true (List.mem_filter.1 hother).2)

theorem mergeSettings_nil (base : Entries Json) : mergeSettings base [] = base := by
  rw [mergeSettings]

theorem nil_mergeSettings {override : Entries Json} (hnodup : (override.map (·.1)).Nodup) :
    mergeSettings [] override = override := by
  refine Entries.eq_of_get? ?_ (nodup_mergeSettings List.nodup_nil hnodup) fun key => ?_
  · simp [keys_mergeSettings [] hnodup]
  · rw [get?_mergeSettings_eq [] hnodup]
    cases Entries.get? override key with
    | none => rfl
    | some value => exact congrArg some (overlaid_unmapped rfl value)

/-- A mapping laid over itself changes nothing. -/
theorem mergeSettings_self {m : Entries Json} (hdistinct : (Json.obj m).isDistinct = true) :
    mergeSettings m m = m := by
  induction m using Entries.mapping_induction with
  | step m ih =>
    have hnodup := Json.nodup_of_isDistinct hdistinct
    refine Entries.eq_of_get? ?_ (nodup_mergeSettings hnodup hnodup) fun key => ?_
    · simp [keys_mergeSettings m hnodup]
    · rw [get?_mergeSettings_eq m hnodup]
      cases hkey : Entries.get? m key with
      | none => rfl
      | some value =>
        cases hplain : value.members? with
        | none => exact congrArg some (overlaid_plain _ hplain)
        | some inside =>
          obtain rfl := Json.eq_obj_of_members? hplain
          have hsame := ih key inside hkey (Json.isDistinct_of_get? hdistinct hkey)
          exact congrArg (some ∘ Json.obj) hsame

/-! ### Three layers -/

/-- Wherever a plain value parts a mapping from one below it, the lower one adds nothing to the
upper. -/
def Regroups (lower? middle? upper? : Option Json) : Prop :=
  ∀ p lower middle upper, lower?.bind (·.part? p) = some (.obj lower) →
    middle?.bind (·.part? p) = some middle → middle.members? = none →
    upper?.bind (·.part? p) = some (.obj upper) → mergeSettings lower upper = upper

/-- Mappings regroup if they do under every key. -/
theorem Regroups.of_obj_iff {a b c : Entries Json} :
    Regroups (some (.obj a)) (some (.obj b)) (some (.obj c)) ↔
      ∀ key, Regroups (Entries.get? a key) (Entries.get? b key) (Entries.get? c key) := by
  refine ⟨fun h key p lower middle upper hlower hmiddle hplain hupper => ?_, ?_⟩
  · rw [← Json.part?_cons] at hlower hmiddle hupper
    exact h (key :: p) lower middle upper hlower hmiddle hplain hupper
  · intro h p lower middle upper hlower hmiddle hplain hupper
    cases p with
    | nil =>
      cases hmiddle
      cases hplain
    | cons key rest =>
      rw [Option.bind_some, Json.part?_cons] at hlower hmiddle hupper
      exact h key rest lower middle upper hlower hmiddle hplain hupper

/-- Three layers regroup if the upper is no mapping. -/
theorem Regroups.of_plain_upper (lower? middle? : Option Json) {upper : Json}
    (h : upper.members? = none) : Regroups lower? middle? (some upper) := by
  intro p lower middle inside _ _ _ hupper
  cases p with
  | nil =>
    cases hupper
    cases h
  | cons key rest =>
    rw [Option.bind_some, Json.part?_plain h] at hupper
    cases hupper

theorem Regroups.of_plain_lower {lower : Json} (h : lower.members? = none)
    (middle? upper? : Option Json) : Regroups (some lower) middle? upper? := by
  intro p inside middle upper hlower
  cases p with
  | nil =>
    cases hlower
    cases h
  | cons key rest =>
    rw [Option.bind_some, Json.part?_plain h] at hlower
    cases hlower

/-- A plain value between two mappings regroups only if the upper hides the lower. -/
theorem Regroups.of_plain_middle_iff {middle : Json} (h : middle.members? = none)
    {lower upper : Entries Json} :
    Regroups (some (.obj lower)) (some middle) (some (.obj upper)) ↔
      mergeSettings lower upper = upper := by
  refine ⟨fun hregroups => hregroups [] lower middle upper rfl rfl h rfl, ?_⟩
  intro hsame p inside value above hlower hmiddle hplain hupper
  cases p with
  | nil =>
    cases hlower
    cases hupper
    exact hsame
  | cons key rest =>
    rw [Option.bind_some, Json.part?_plain h] at hmiddle
    cases hmiddle

/-- The values of three layers under one key. -/
theorem layered_assoc_iff {a? b? c? : Option Json}
    (hobjects : ∀ x y z, a? = some (.obj x) → b? = some (.obj y) → c? = some (.obj z) →
      (mergeSettings (mergeSettings x y) z = mergeSettings x (mergeSettings y z) ↔
        Regroups a? b? c?)) :
    layered (layered a? b?) c? = layered a? (layered b? c?) ↔ Regroups a? b? c? := by
  cases c? with
  | none => exact iff_of_true rfl fun _ _ _ _ _ _ _ hupper => by cases hupper
  | some c =>
  cases b? with
  | none => exact iff_of_true rfl fun _ _ _ _ _ hmiddle => by cases hmiddle
  | some b =>
  cases a? with
  | none =>
    refine iff_of_true ?_ fun _ _ _ _ hlower => by cases hlower
    simp only [layered, Option.elim, @overlaid_unmapped none rfl]
  | some a =>
  simp only [layered, Option.elim]
  cases hc : c.members? with
  | none =>
    refine iff_of_true ?_ (Regroups.of_plain_upper _ _ hc)
    simp only [overlaid_plain _ hc]
  | some z =>
  obtain rfl := Json.eq_obj_of_members? hc
  cases hb : b.members? with
  | none =>
    rw [overlaid_plain _ hb, @overlaid_unmapped (some b) hb]
    cases ha : a.members? with
    | none =>
      refine iff_of_true ?_ (Regroups.of_plain_lower ha _ _)
      rw [@overlaid_unmapped (some a) ha]
    | some x =>
      obtain rfl := Json.eq_obj_of_members? ha
      rw [Regroups.of_plain_middle_iff hb, eq_comm]
      exact ⟨fun h => Json.obj.inj (Option.some.inj h), fun h => congrArg (some ∘ Json.obj) h⟩
  | some y =>
    obtain rfl := Json.eq_obj_of_members? hb
    cases ha : a.members? with
    | none =>
      refine iff_of_true ?_ (Regroups.of_plain_lower ha _ _)
      rw [@overlaid_unmapped (some a) ha, @overlaid_unmapped (some a) ha]
    | some x =>
      obtain rfl := Json.eq_obj_of_members? ha
      rw [← hobjects x y z rfl rfl rfl]
      exact ⟨fun h => Json.obj.inj (Option.some.inj h), fun h => congrArg (some ∘ Json.obj) h⟩

/-- The keys of three merged layers have one order. -/
theorem keys_mergeSettings_assoc (a : Entries Json) {b c : Entries Json}
    (hb : (b.map (·.1)).Nodup) (hc : (c.map (·.1)).Nodup) :
    (mergeSettings (mergeSettings a b) c).map (·.1) =
      (mergeSettings a (mergeSettings b c)).map (·.1) := by
  rw [keys_mergeSettings _ hc, keys_mergeSettings _ hb,
    keys_mergeSettings _ (nodup_mergeSettings hb hc), keys_mergeSettings _ hc,
    Entries.newNames_assoc]

/-- Three layers may be grouped either way exactly if no plain value of the middle one takes away
something of the lower one that would show under the upper. -/
theorem mergeSettings_assoc_iff {a b c : Entries Json} (ha : (Json.obj a).isDistinct = true)
    (hb : (Json.obj b).isDistinct = true) (hc : (Json.obj c).isDistinct = true) :
    mergeSettings (mergeSettings a b) c = mergeSettings a (mergeSettings b c) ↔
      Regroups (some (.obj a)) (some (.obj b)) (some (.obj c)) := by
  induction c using Entries.mapping_induction generalizing a b with
  | step c ih =>
    have hanodup := Json.nodup_of_isDistinct ha
    have hbnodup := Json.nodup_of_isDistinct hb
    have hcnodup := Json.nodup_of_isDistinct hc
    have hkey (key : String) :
        Entries.get? (mergeSettings (mergeSettings a b) c) key =
            Entries.get? (mergeSettings a (mergeSettings b c)) key ↔
          Regroups (Entries.get? a key) (Entries.get? b key) (Entries.get? c key) := by
      rw [get?_mergeSettings_eq _ hcnodup, get?_mergeSettings_eq _ hbnodup,
        get?_mergeSettings_eq _ (nodup_mergeSettings hbnodup hcnodup),
        get?_mergeSettings_eq _ hcnodup]
      refine layered_assoc_iff fun x y z hx hy hz => ?_
      rw [hx, hy, hz]
      exact ih key z hz (Json.isDistinct_of_get? ha hx) (Json.isDistinct_of_get? hb hy)
        (Json.isDistinct_of_get? hc hz)
    rw [Regroups.of_obj_iff]
    refine ⟨fun h key => (hkey key).1 (by rw [h]), fun h => ?_⟩
    exact Entries.eq_of_get? (keys_mergeSettings_assoc a hbnodup hcnodup)
      (nodup_mergeSettings (nodup_mergeSettings hanodup hbnodup) hcnodup) fun key =>
        (hkey key).2 (h key)

example :
    let lower := [("proxy", Json.obj [("port", .int 80)])]
    let middle := [("proxy", Json.null)]
    let upper := [("proxy", Json.obj [])]
    let port (m : Entries Json) := (Json.obj m).part? ["proxy", "port"]
    port (mergeSettings (mergeSettings lower middle) upper) = none ∧
      port (mergeSettings lower (mergeSettings middle upper)) = some (.int 80) := by
  constructor <;> simp [mergeSettings, Entries.get?, Entries.set, Json.part?]

/-! ## All paths -/

/-- The keys of a mapping that may be missing. -/
def keysOf (value? : Option Json) : List String :=
  ((value?.bind Json.members?).getD []).map (·.1)

/-- The keys at a path through two layers. -/
theorem keys_part?_mergeSettings (base : Entries Json) {override members : Entries Json}
    (hdistinct : (Json.obj override).isDistinct = true) {p : Path}
    (hmerged : (Json.obj (mergeSettings base override)).part? p = some (.obj members)) :
    let below := keysOf ((Json.obj base).part? p)
    members.map (·.1) = below ++ (keysOf ((Json.obj override).part? p)).filter (· ∉ below) := by
  intro below
  rw [part?_mergeSettings base hdistinct] at hmerged
  cases hupper : (Json.obj override).part? p with
  | none =>
    rw [hupper] at hmerged
    obtain ⟨-, hlower⟩ := Option.ite_none_right_eq_some.1 hmerged
    have hbelow : below = members.map (·.1) := congrArg keysOf hlower
    rw [hbelow]
    exact (List.append_nil _).symm
  | some value =>
    rw [hupper] at hmerged
    have hvalue := Option.some.inj hmerged
    cases hlower : ((Json.obj base).part? p).bind Json.members? with
    | none =>
      rw [overlaid_unmapped hlower] at hvalue
      have hbelow : below = [] := congrArg (fun found => (found.getD []).map (·.1)) hlower
      rw [hbelow, hvalue]
      exact (List.filter_eq_self.2 fun key _ => decide_eq_true List.not_mem_nil).symm
    | some lower =>
      cases hplain : value.members? with
      | none =>
        rw [overlaid_plain _ hplain] at hvalue
        rw [hvalue] at hplain
        cases hplain
      | some upper =>
        obtain rfl := Json.eq_obj_of_members? hplain
        obtain ⟨inside, hinside, hmembers⟩ := Option.bind_eq_some_iff.1 hlower
        obtain rfl := Json.eq_obj_of_members? hmembers
        have hbelow : below = lower.map (·.1) := congrArg keysOf hinside
        rw [hinside] at hvalue
        rw [hbelow, ← Json.obj.inj hvalue]
        exact keys_mergeSettings lower
          (Json.nodup_of_isDistinct (Json.isDistinct_of_part? hdistinct hupper))

/-- What a mapping laid over another has at every path and in which order; the laws of layers. -/
theorem mergeSettings_along (a b : Entries Json) (ha : (Json.obj a).isDistinct = true)
    (hb : (Json.obj b).isDistinct = true) :
    let below := (Json.obj a).part?
    let above := (Json.obj b).part?
    let merged := (Json.obj (mergeSettings a b)).part?
    (∀ p value, above p = some value → value.members? = none → merged p = some value) ∧
      (∀ p upper, above p = some (.obj upper) →
        (∀ lower, below p = some (.obj lower) →
          merged p = some (.obj (mergeSettings lower upper))) ∧
        ((∀ lower, below p ≠ some (.obj lower)) → merged p = some (.obj upper))) ∧
      (∀ p, above p = none →
        ((∀ q, q <+: p → q ≠ p → ∀ value, above q = some value → value.members? ≠ none) →
          merged p = below p) ∧
        ((∃ q, q <+: p ∧ q ≠ p ∧ ∃ value, above q = some value ∧ value.members? = none) →
          merged p = none)) ∧
      (∀ p members, merged p = some (.obj members) →
        members.map (·.1) =
          keysOf (below p) ++ (keysOf (above p)).filter (· ∉ keysOf (below p))) ∧
      mergeSettings a [] = a ∧ mergeSettings [] b = b ∧ mergeSettings a a = a ∧
      ∀ c, (Json.obj c).isDistinct = true →
        (∀ p lower middle upper, below p = some (.obj lower) → above p = some middle →
          middle.members? = none → (Json.obj c).part? p ≠ some (.obj upper)) →
        mergeSettings (mergeSettings a b) c = mergeSettings a (mergeSettings b c) := by
  intro below above merged
  have hmerged : ∀ p, merged p = match above p with
      | some value => some (overlaid (below p) value)
      | none => if (Json.obj b).opens p then below p else none := part?_mergeSettings a hb
  refine ⟨?_, ?_, ?_, fun p members hp => keys_part?_mergeSettings a hb hp,
    mergeSettings_nil a,
    nil_mergeSettings (Json.nodup_of_isDistinct hb), mergeSettings_self ha, ?_⟩
  · intro p value habove hplain
    rw [hmerged, habove]
    exact congrArg some (overlaid_plain _ hplain)
  · intro p upper habove
    refine ⟨fun lower hbelow => ?_, fun hunmapped => ?_⟩
    · rw [hmerged, habove, hbelow]
      rfl
    · rw [hmerged, habove]
      refine congrArg some (overlaid_unmapped ?_ _)
      refine Option.eq_none_iff_forall_ne_some.2 fun lower hlower => ?_
      obtain ⟨value, hvalue, hmembers⟩ := Option.bind_eq_some_iff.1 hlower
      exact hunmapped lower (Json.eq_obj_of_members? hmembers ▸ hvalue)
  · intro p habove
    refine ⟨fun hopen => ?_, ?_⟩
    · rw [hmerged, habove, Json.opens_iff.2 hopen]
      rfl
    · rintro ⟨q, hq, hne, value, hvalue, hplain⟩
      have hclosed : ¬ (Json.obj b).opens p = true :=
        fun hopen => Json.opens_iff.1 hopen q hq hne value hvalue hplain
      rw [hmerged, habove, Bool.eq_false_iff.2 hclosed]
      rfl
  · intro c hc hparted
    refine (mergeSettings_assoc_iff ha hb hc).2 ?_
    intro p lower middle upper hlower hmiddle hplain hupper
    exact absurd hupper (hparted p lower middle upper hlower hmiddle hplain)

/-- A text over a mapping and a mapping over a text, both inside a section, and a third layer whose
only mapping is that section. -/
theorem mergeSettings_section_along :
    let site := [("client", Json.obj [("proxy", .obj [("port", .int 80)]), ("tls", .str "off")])]
    let user :=
      [("client", Json.obj [("proxy", .str "none"), ("tls", .obj [("verify", .bool true)])])]
    let run := [("client", Json.obj [("timeout", .int 5)])]
    (Json.obj site).isDistinct = true ∧ (Json.obj user).isDistinct = true ∧
      (Json.obj (mergeSettings site user)).part? ["client", "proxy"] = some (.str "none") ∧
      (Json.obj (mergeSettings site user)).part? ["client", "proxy", "port"] = none ∧
      (Json.obj (mergeSettings site user)).part? ["client", "tls"] =
        some (.obj [("verify", .bool true)]) ∧
      mergeSettings (mergeSettings site user) run =
        mergeSettings site (mergeSettings user run) := by
  intro site user run
  have hsite : (Json.obj site).isDistinct = true := by decide
  have huser : (Json.obj user).isDistinct = true := by decide
  obtain ⟨hplain, hmapping, hmissing, -, -, -, -, hassoc⟩ :=
    mergeSettings_along site user hsite huser
  refine ⟨hsite, huser, hplain _ _ rfl rfl, (hmissing _ rfl).2 ?_, (hmapping _ _ rfl).2 ?_,
    hassoc run (by decide) ?_⟩
  · exact ⟨["client", "proxy"], by simp, by simp, _, rfl, rfl⟩
  · rintro lower ⟨⟩
  · -- The third layer has mappings at the empty path and at the section, where the second has too.
    rintro (_ | ⟨key, _ | ⟨inner, rest⟩⟩) lower middle upper - hmiddle hplain hupper
    · cases hmiddle
      cases hplain
    · rw [Json.part?_cons] at hmiddle hupper
      by_cases hkey : "client" = key
      · simp only [user, Entries.get?, if_pos hkey] at hmiddle
        cases hmiddle
        cases hplain
      · simp [run, Entries.get?, hkey] at hupper
    · rw [Json.part?_cons] at hupper
      by_cases hkey : "client" = key
      · simp only [run, Entries.get?, if_pos hkey, Option.bind_some, Json.part?_cons] at hupper
        by_cases hinner : "timeout" = inner
        · rw [if_pos hinner] at hupper
          cases rest <;> cases hupper
        · simp [hinner] at hupper
      · simp [run, Entries.get?, hkey] at hupper

end SearchBuilder
