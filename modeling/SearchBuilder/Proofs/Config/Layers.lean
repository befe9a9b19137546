import SearchBuilder.Config.Merge
import SearchBuilder.Proofs.Config.Settings
import SearchBuilder.Proofs.Json.Entries

/-!
# Layers of settings

Laying a mapping over another decides key by key: a value of the upper one counts, except that two
mappings are merged in turn (`get?_mergeSettings`). So a section has the values of the upper layer
over those of the lower (`valuesOf_mergeSettings`), and from these the settings are read and a
client is made (`Settings.parse_layered`).
-/

namespace SearchBuilder

/-! ## Merging -/

/-- What a value becomes over another that may be missing. -/
def overlaid : Option Json → Json → Json
  | some (.obj lower), .obj upper => .obj (mergeSettings lower upper)
  | _, value => value

theorem overlaid_of_plain {lower? : Option Json} {value : Json}
    (h : ∀ members, some (overlaid lower? value) ≠ some (.obj members)) :
    overlaid lower? value = value := by
  unfold overlaid at h ⊢
  split
  · next lower upper =>
    exact absurd rfl (h (mergeSettings lower upper))
  · rfl

theorem mergeSettings_cons (base : Entries Json) (key : String) (value : Json)
    (rest : Entries Json) : mergeSettings base ((key, value) :: rest) =
      mergeSettings (Entries.set base key (overlaid (Entries.get? base key) value)) rest := by
  cases value with
  | obj upper =>
    rw [mergeSettings]
    unfold overlaid
    cases Entries.get? base key with
    | none => rfl
    | some lower => cases lower <;> rfl
  | _ =>
    rw [mergeSettings]
    · unfold overlaid
      cases Entries.get? base key with
      | none => rfl
      | some lower => cases lower <;> rfl
    · simp

/-- A key that the upper mapping does not have keeps its value. -/
theorem get?_mergeSettings_of_absent (base : Entries Json) {override : Entries Json} {key : String}
    (h : key ∉ override.map (·.1)) :
    Entries.get? (mergeSettings base override) key = Entries.get? base key := by
  induction override generalizing base with
  | nil => rw [mergeSettings]
  | cons entry rest ih =>
    obtain ⟨k, value⟩ := entry
    rw [List.map_cons, List.mem_cons, not_or] at h
    rw [mergeSettings_cons, ih _ h.2, Entries.get?_set_of_ne base (Ne.symm h.1)]

theorem get?_mergeSettings (base : Entries Json) {override : Entries Json} {key : String}
    {value : Json} (hnodup : (override.map (·.1)).Nodup)
    (h : Entries.get? override key = some value) :
    Entries.get? (mergeSettings base override) key =
      some (overlaid (Entries.get? base key) value) := by
  induction override generalizing base with
  | nil => cases h
  | cons entry rest ih =>
    obtain ⟨k, v⟩ := entry
    rw [List.map_cons, List.nodup_cons] at hnodup
    rw [mergeSettings_cons]
    by_cases hk : k = key
    · subst hk
      rw [Entries.get?, if_pos rfl, Option.some.injEq] at h
      rw [get?_mergeSettings_of_absent _ hnodup.1, Entries.get?_set_self, h]
    · rw [Entries.get?, if_neg hk] at h
      rw [ih _ hnodup.2 h, Entries.get?_set_of_ne base hk]

namespace Settings

/-! ## Values of layers -/

/-- The values of an upper layer, and those of a lower one where it has none. -/
def Values.over (upper lower : Values) : Values := fun key => (upper key).or (lower key)

/-- Settings that may be laid over others: what they say of a section is a mapping. -/
structure IsOverride (override : Entries Json) : Prop where
  nodup : (override.map (·.1)).Nodup
  sections : ∀ name ∈ ["log", "client"], ∀ value, Entries.get? override name = some value →
    ∃ members, value = .obj members ∧ (members.map (·.1)).Nodup

/-- Values that are no mappings are the same. -/
def Values.Agrees (values others : Values) : Prop :=
  ∀ key, (∀ members, values key ≠ some (.obj members)) → others key = values key

/-- Mappings alone are merged further, and no setting is a mapping. -/
theorem valuesOf_mergeSettings (base : Entries Json) {override : Entries Json}
    (h : IsOverride override) {name : String} (hname : name ∈ ["log", "client"]) :
    (valuesOf (mergeSettings base override) name).Agrees
      ((valuesOf override name).over (valuesOf base name)) := by
  intro key hplain
  unfold Values.over
  unfold valuesOf at hplain ⊢
  cases hupper : Entries.get? override name with
  | none =>
    rw [get?_mergeSettings_of_absent base (Entries.get?_eq_none_iff.1 hupper)]
    rfl
  | some value =>
    obtain ⟨upper, rfl, hnodup⟩ := h.sections name hname value hupper
    rw [get?_mergeSettings base h.nodup hupper] at hplain ⊢
    cases hlower : Entries.get? base name with
    | none => exact Option.or_none
    | some below =>
      rw [hlower] at hplain
      cases below with
      | obj lower =>
        dsimp only [overlaid] at hplain ⊢
        cases hkey : Entries.get? upper key with
        | none =>
          rw [get?_mergeSettings_of_absent lower (Entries.get?_eq_none_iff.1 hkey)]
          rfl
        | some value =>
          rw [get?_mergeSettings lower hnodup hkey] at hplain ⊢
          exact congrArg some (overlaid_of_plain hplain).symm
      | _ => exact Option.or_none

theorem Values.Agrees.usualUnless {values others : Values} (h : values.Agrees others)
    {usual value : Json} {key : String} (hvalue : usualUnless usual (values key) = value)
    (hplain : ∀ members, value ≠ .obj members) : usualUnless usual (others key) = value := by
  have hother : others key = values key := by
    refine h key ?_
    intro members hmembers
    rw [hmembers] at hvalue
    exact hplain members hvalue.symm
  rw [hother, hvalue]

end Settings

open Settings

theorem LogSettings.Reads.congr {values others : Values} {s : LogSettings} (hs : s.Reads values)
    (h : values.Agrees others) : s.Reads others := by
  obtain ⟨⟨level, hlevel, hupper⟩, htoFile, hdirectory⟩ := hs
  exact ⟨⟨level, h.usualUnless hlevel nofun, hupper⟩, h.usualUnless htoFile nofun,
    h.usualUnless hdirectory nofun⟩

theorem ClientSettings.Reads.congr {env : Environment} {values others : Values}
    {s : ClientSettings} (hs : s.Reads env values) (h : values.Agrees others) :
    s.Reads env others := by
  obtain ⟨⟨server, hserver, hstripped⟩, htimeout, hattempts, ⟨username, husername, huser⟩,
    ⟨variableName, hvariable, hname⟩, hpassword⟩ := hs
  refine ⟨⟨server, ?_, hstripped⟩, ?_, h.usualUnless hattempts nofun,
    ⟨username, h.usualUnless husername nofun, huser⟩,
    ⟨variableName, h.usualUnless hvariable nofun, hname⟩, hpassword⟩
  · rw [h "server_url" (by simp [hserver]), hserver]
  · rw [h.usualUnless rfl htimeout.ne_obj]
    exact htimeout

/-- Settings laid over others are read from both layers, and a client of them has what they say. -/
theorem Settings.parse_layered (env : Environment) (base override : Entries Json)
    (hoverride : IsOverride override) (settings : Settings)
    (hparse : Settings.parse env (.obj (mergeSettings base override)) = .ok settings) :
    let values (name : String) := (valuesOf override name).over (valuesOf base name)
    settings.log.Reads (values "log") ∧ settings.client.Reads env (values "client") ∧
      1 ≤ settings.client.maxAttempts ∧
      ∀ url, baseUrl (.str settings.client.serverUrl) .null = .ok url →
        ∀ replies, settings.client.connect replies = .ok
          { baseUrl := url
            timeout := .float settings.client.timeout
            attempts := .count settings.client.maxAttempts.toNat
            auth :=
              if settings.client.username = "" then .null
              else .arr [.str settings.client.username, .str settings.client.password]
            replies } := by
  intro values
  obtain ⟨hlog, hclient, -, hcheck⟩ := parse_reads hparse
  refine ⟨?_, ?_, ClientSettings.one_le_of_check hcheck, ?_⟩
  · exact hlog.congr (valuesOf_mergeSettings base hoverride (by simp))
  · exact hclient.congr (valuesOf_mergeSettings base hoverride (by simp))
  · intro url hurl replies
    exact ClientSettings.connect_of_check hcheck hurl replies

/-- The settings of a site. -/
def siteSettings : Entries Json :=
  [("client", .obj [("max_attempts", .int 5), ("password_env", .str "SITE_PASSWORD")])]

/-- The settings of a user, in which a null hides that the site has a password of its own. -/
def userSettings : Entries Json :=
  [("log", .obj [("level", .str "debug")]),
    ("client", .obj
      [("server_url", .str " http://h:9200/ "), ("username", .str " u "), ("password_env", .null)])]

theorem userSettings_layered :
    let env : Environment := [("SITE_PASSWORD", "q"), ("ELASTIC_PASSWORD", " s3 ")]
    IsOverride userSettings ∧ ∃ settings,
      Settings.parse env (.obj (mergeSettings siteSettings userSettings)) = .ok settings ∧
        baseUrl (.str settings.client.serverUrl) .null = .ok "http://h:9200" ∧
        settings.client.connect [] = .ok
          { baseUrl := "http://h:9200"
            timeout := .float (.ofNat 30)
            attempts := .count 5
            auth := .arr [.str "u", .str "s3"]
            replies := [] } := by
  have hoverride : IsOverride userSettings := by
    refine ⟨by decide, ?_⟩
    intro name hname value hvalue
    simp only [List.mem_cons, List.not_mem_nil, or_false] at hname
    rcases hname with rfl | rfl <;> cases hvalue <;> exact ⟨_, rfl, by decide⟩
  have hmerged : mergeSettings siteSettings userSettings =
      [("client", .obj
        [("max_attempts", .int 5), ("password_env", .null), ("server_url", .str " http://h:9200/ "),
          ("username", .str " u ")]),
        ("log", .obj [("level", .str "debug")])] := by
    simp [siteSettings, userSettings, mergeSettings, Entries.get?, Entries.set]
  have hparse : Settings.parse [("SITE_PASSWORD", "q"), ("ELASTIC_PASSWORD", " s3 ")]
      (.obj (mergeSettings siteSettings userSettings)) = .ok
        { log := { level := "DEBUG", toFile := false, directory := "log" }
          client :=
            { serverUrl := "http://h:9200/"
              timeout := .ofNat 30
              maxAttempts := 5
              username := "u"
              passwordVariable := "ELASTIC_PASSWORD"
              password := "s3" } } := by
    rw [hmerged]
    exact eq_ok_of_toOption (by decide +kernel)
  have hurl : baseUrl (.str "http://h:9200/") .null = .ok "http://h:9200" :=
    eq_ok_of_toOption (by decide +kernel)
  obtain ⟨-, -, -, hconnect⟩ :=
    Settings.parse_layered _ siteSettings userSettings hoverride _ hparse
  exact ⟨hoverride, _, hparse, hurl, hconnect _ hurl []⟩

end SearchBuilder
