import SearchBuilder.Proofs.Config.Paths
import SearchBuilder.Proofs.Config.Settings

/-!
# What settings depend on

Of the layers of settings and of the environment, only the settings of the two sections and the one
variable that the password is read from have a say in what settings are read, or why they are
refused (`Settings.parse_confined`). What else the layers hold, a password among it, is not looked
at; neither is any other variable. Without a user name there are no credentials at all.
-/

namespace SearchBuilder

namespace Settings

/-! ## Sections of two layers -/

/-- Settings in which a section is a mapping. -/
def HasSection (settings : Entries Json) (name : String) : Prop :=
  ∃ members, Entries.get? settings name = some (.obj members)

theorem valuesOf_eq_part? (settings : Entries Json) (name key : String) :
    valuesOf settings name key = (Json.obj settings).part? [name, key] := by
  unfold valuesOf
  rw [Json.part?_cons]
  cases Entries.get? settings name with
  | none => rfl
  | some value =>
    cases value with
    | obj members =>
      change Entries.get? members key = (Json.obj members).part? [key]
      rw [Json.part?_cons]
      exact (Option.bind_fun_some _).symm
    | _ => rfl

section

variable {base override : Entries Json} (hdistinct : (Json.obj override).isDistinct = true)
  {name : String} (hsection : HasSection (mergeSettings base override) name)

include hdistinct hsection

/-- Nothing but a mapping is laid over a section that stays one. -/
theorem opens_section (key : String) : (Json.obj override).opens [name, key] = true := by
  obtain ⟨members, hmembers⟩ := hsection
  rw [get?_mergeSettings_eq base (Json.nodup_of_isDistinct hdistinct)] at hmembers
  refine Json.opens_cons fun value hvalue => ?_
  rw [hvalue] at hmembers
  cases hplain : value.members? with
  | none =>
    have hsame : value = .obj members := by
      rw [← overlaid_plain (Entries.get? base name) hplain]
      exact Option.some.inj hmembers
    rw [hsame] at hplain
    cases hplain
  | some upper =>
    obtain rfl := Json.eq_obj_of_members? hplain
    exact Json.opens_cons fun _ _ => rfl

theorem valuesOf_mergeSettings_eq (key : String) :
    valuesOf (mergeSettings base override) name key =
      layered ((Json.obj base).part? [name, key]) ((Json.obj override).part? [name, key]) := by
  rw [valuesOf_eq_part?, part?_mergeSettings base hdistinct, opens_section hdistinct hsection key]
  cases (Json.obj override).part? [name, key] <;> rfl

end

/-! ## Settings that agree -/

/-- Settings and others that both have a section, with the same values of some keys, if any. -/
structure AgreeOn (name : String) (keys : List String) (settings others : Entries Json) :
    Prop where
  left : HasSection settings name
  right : HasSection others name
  values : ∀ key ∈ keys, valuesOf settings name key = valuesOf others name key

theorem AgreeOn.refl {settings : Entries Json} {name : String} (h : HasSection settings name)
    (keys : List String) : AgreeOn name keys settings settings :=
  ⟨h, h, fun _ _ => rfl⟩

/-- Layers with the same values at the places of a section make the same of it. -/
theorem agreeOn_mergeSettings {base override base' override' : Entries Json}
    (hdistinct : (Json.obj override).isDistinct = true)
    (hdistinct' : (Json.obj override').isDistinct = true) {name : String} {keys : List String}
    (hsection : HasSection (mergeSettings base override) name)
    (hsection' : HasSection (mergeSettings base' override') name)
    (hsame : ∀ key ∈ keys,
      (Json.obj base).part? [name, key] = (Json.obj base').part? [name, key] ∧
        (Json.obj override).part? [name, key] = (Json.obj override').part? [name, key]) :
    AgreeOn name keys (mergeSettings base override) (mergeSettings base' override') where
  left := hsection
  right := hsection'
  values key hkey := by
    obtain ⟨hbase, hoverride⟩ := hsame key hkey
    rw [valuesOf_mergeSettings_eq hdistinct hsection,
      valuesOf_mergeSettings_eq hdistinct' hsection', hbase, hoverride]

/-- The places of all settings. -/
def settingPlaces : List Path :=
  ["level", "to_file", "dir"].map (["log", ·]) ++
    ["server_url", "timeout", "max_attempts", "username", "password_env"].map (["client", ·])

/-- The members of two sections that agree, as they are read. -/
theorem AgreeOn.members {name : String} {keys : List String} {settings others : Entries Json}
    (h : AgreeOn name keys settings others) :
    ∃ members members',
      .ok (some members) = section? settings name ∧ .ok (some members') = section? others name ∧
      (∀ key, Entries.get? members key = valuesOf settings name key) ∧
      ∀ key ∈ keys, Entries.get? members key = Entries.get? members' key := by
  obtain ⟨members, hmembers⟩ := h.left
  obtain ⟨members', hmembers'⟩ := h.right
  have hsection : section? settings name = .ok (some members) := by rw [section?, hmembers]
  have hsection' : section? others name = .ok (some members') := by rw [section?, hmembers']
  have hvalue (key : String) : Entries.get? members key = valuesOf settings name key :=
    get?_section hsection key
  have hvalue' (key : String) : Entries.get? members' key = valuesOf others name key :=
    get?_section hsection' key
  refine ⟨members, members', hsection.symm, hsection'.symm, hvalue, fun key hkey => ?_⟩
  rw [hvalue, hvalue', h.values key hkey]

end Settings

open Settings

/-! ## What is read -/

theorem LogSettings.parse_congr {settings others : Entries Json}
    (h : AgreeOn "log" ["level", "to_file", "dir"] settings others) :
    LogSettings.parse settings = LogSettings.parse others := by
  obtain ⟨members, members', hsection, hsection', -, hsame⟩ := h.members
  simp only [List.forall_mem_cons] at hsame
  obtain ⟨hlevel, htoFile, hdirectory, -⟩ := hsame
  unfold LogSettings.parse
  rw [← hsection, ← hsection']
  dsimp only [bind, Except.bind, Option.getD_some]
  simp only [optional_eq, hlevel, htoFile, hdirectory]

namespace ClientSettings

/-- The variable that the password is read from; there is none if what should name it is no text. -/
def passwordVariable? (values : Values) : Option String :=
  match usualUnless (.str "ELASTIC_PASSWORD") (values "password_env") with
  | .str name => some (stripBlanks name)
  | _ => none

theorem parse_congr {env env' : Environment} {settings others : Entries Json}
    (h : AgreeOn "client" ["server_url", "timeout", "max_attempts", "username", "password_env"]
      settings others)
    (henv : ∀ name, passwordVariable? (valuesOf settings "client") = some name →
      Entries.get? env name = Entries.get? env' name) :
    ClientSettings.parse env settings = ClientSettings.parse env' others := by
  obtain ⟨members, members', hsection, hsection', hvalue, hsame⟩ := h.members
  simp only [List.forall_mem_cons] at hsame
  obtain ⟨hserver, htimeout, hattempts, husername, hvariable, -⟩ := hsame
  unfold ClientSettings.parse
  rw [← hsection, ← hsection']
  dsimp only [bind, Except.bind]
  simp only [optional_eq, ← hserver, ← htimeout, ← hattempts, ← husername, ← hvariable]
  cases hname : asText "client.password_env"
      (usualUnless (.str usualVariable) (Entries.get? members "password_env")) with
  | error fault => rfl
  | ok name =>
    have hpassword : passwordOf env (stripBlanks name) = passwordOf env' (stripBlanks name) := by
      have hnamed : passwordVariable? (valuesOf settings "client") = some (stripBlanks name) := by
        rw [passwordVariable?, ← hvalue, ← usualVariable, eq_str_of_asText hname]
      rw [passwordOf, passwordOf, henv _ hnamed]
    dsimp only
    rw [hpassword]

/-- Without a user name a client has no credentials. -/
theorem auth_of_connect {s : ClientSettings} (husername : s.username = "")
    {replies : List Reply} {client : HttpClient} (h : s.connect replies = .ok client) :
    client.auth = .null := by
  have hauth : s.auth = .null := by
    rw [auth, credentials, husername]
    rfl
  unfold connect HttpClient.create at h
  obtain ⟨url, -, h⟩ := exists_of_bind_eq_ok h
  obtain ⟨attempts, -, h⟩ := exists_of_bind_eq_ok h
  rw [← Except.ok.inj h]
  exact hauth

end ClientSettings

theorem Settings.parse_congr {env env' : Environment} {settings others : Entries Json}
    (hlog : AgreeOn "log" ["level", "to_file", "dir"] settings others)
    (hclient : AgreeOn "client"
      ["server_url", "timeout", "max_attempts", "username", "password_env"] settings others)
    (henv : ∀ name,
      ClientSettings.passwordVariable? (valuesOf settings "client") = some name →
      Entries.get? env name = Entries.get? env' name) :
    Settings.parse env (.obj settings) = Settings.parse env' (.obj others) := by
  rw [parse_obj, parse_obj, LogSettings.parse_congr hlog, ClientSettings.parse_congr hclient henv]

/-! ## The layers and the environment -/

/-- Layers and environments that agree on the settings and on the variable of the password give the
same settings or are refused for the same reason, whatever else they hold. -/
theorem Settings.parse_confined {base override base' override' : Entries Json}
    {env env' : Environment}
    (hlog : AgreeOn "log" ["level", "to_file", "dir"]
      (mergeSettings base override) (mergeSettings base' override'))
    (hclient : AgreeOn "client"
      ["server_url", "timeout", "max_attempts", "username", "password_env"]
      (mergeSettings base override) (mergeSettings base' override'))
    (henv : ∀ name, ClientSettings.passwordVariable?
        (valuesOf (mergeSettings base override) "client") = some name →
      Entries.get? env name = Entries.get? env' name) :
    let outcome (base override : Entries Json) (env : Environment) :=
      Settings.parse env (.obj (mergeSettings base override))
    let merged (key : String) := valuesOf (mergeSettings base override) "client" key
    outcome base override env = outcome base' override' env' ∧
      -- Whatever the layers hold elsewhere:
      (∀ lower upper, (Json.obj override).isDistinct = true → (Json.obj upper).isDistinct = true →
        HasSection (mergeSettings lower upper) "log" →
        HasSection (mergeSettings lower upper) "client" →
        (∀ place ∈ settingPlaces,
          (Json.obj base).part? place = (Json.obj lower).part? place ∧
            (Json.obj override).part? place = (Json.obj upper).part? place) →
        outcome lower upper env = outcome base override env) ∧
      -- Whatever other variables there are:
      (∀ name value, ClientSettings.passwordVariable? merged ≠ some name →
        outcome base override (Entries.set env name value) = outcome base override env) ∧
      (∀ s, outcome base override env = .ok s →
        ∃ name, ClientSettings.passwordVariable? merged = some name ∧
          s.client.password =
            if name = "" then "" else stripBlanks ((Entries.get? env name).getD "")) ∧
      ∀ text, usualUnless (.str "") (merged "username") = .str text → stripBlanks text = "" →
        ∀ env s, outcome base override env = .ok s →
          ∀ replies client, s.client.connect replies = .ok client → client.auth = .null := by
  intro outcome merged
  refine ⟨parse_congr hlog hclient henv, ?_, fun name value hname => ?_, fun s hs => ?_, ?_⟩
  · intro lower upper hdistinct hdistinct' hlogSection hclientSection hplaces
    refine (parse_congr ?_ ?_ fun name _ => rfl).symm
    · refine agreeOn_mergeSettings hdistinct hdistinct' hlog.left hlogSection fun key hkey => ?_
      exact hplaces _ (List.mem_append_left _ (List.mem_map_of_mem hkey))
    · refine agreeOn_mergeSettings hdistinct hdistinct' hclient.left hclientSection
        fun key hkey => ?_
      exact hplaces _ (List.mem_append_right _ (List.mem_map_of_mem hkey))
  · refine parse_congr (.refl hlog.left _) (.refl hclient.left _) fun other hother => ?_
    refine Entries.get?_set_of_ne env (fun heq => ?_) value
    rw [heq] at hname
    exact hname hother
  · obtain ⟨-, hreads, -⟩ := parse_reads hs
    obtain ⟨text, hvariable, hname⟩ := hreads.passwordVariable
    refine ⟨s.client.passwordVariable, ?_, hreads.password⟩
    rw [ClientSettings.passwordVariable?, hvariable, hname]
  · intro text hvalue hblank env s hs replies client hconnect
    obtain ⟨-, hreads, -⟩ := parse_reads hs
    obtain ⟨username, husername, hstripped⟩ := hreads.username
    have hsame : username = text := Json.str.inj (husername.symm.trans hvalue)
    refine ClientSettings.auth_of_connect ?_ hconnect
    rw [hstripped, hsame, hblank]

/-- Two layers that name a password, and two that hold another and something else besides. -/
theorem Settings.parse_confined_passwords :
    let base := [("log", Json.obj []), ("client", .obj
      [("server_url", .str "http://h"), ("username", .str "u"), ("password", .str "a")])]
    let override := [("client", Json.obj [("password_env", .str " SITE ")])]
    let base' := [("client", Json.obj [("username", .str "u"), ("password", .str "b")])]
    let override' := [("proxy", Json.null), ("log", .obj [("color", .bool true)]), ("client", .obj
      [("password_env", .str " SITE "), ("server_url", .str "http://h")])]
    let env : Environment := [("SITE", " s "), ("ELASTIC_PASSWORD", "c")]
    let env' : Environment := [("HOME", "/d"), ("SITE", " s ")]
    ∃ s, s.client.password = "s" ∧
      Settings.parse env (.obj (mergeSettings base override)) = .ok s ∧
      Settings.parse env' (.obj (mergeSettings base' override')) = .ok s := by
  intro base override base' override' env env'
  have hmerged : mergeSettings base override = [("log", .obj []), ("client", .obj
      [("server_url", .str "http://h"), ("username", .str "u"), ("password", .str "a"),
        ("password_env", .str " SITE ")])] := by
    simp [base, override, mergeSettings, Entries.get?, Entries.set]
  have hmerged' : mergeSettings base' override' = [("client", .obj
      [("username", .str "u"), ("password", .str "b"), ("password_env", .str " SITE "),
        ("server_url", .str "http://h")]), ("proxy", .null),
        ("log", .obj [("color", .bool true)])] := by
    simp [base', override', mergeSettings, Entries.get?, Entries.set]
  have hlog : AgreeOn "log" ["level", "to_file", "dir"]
      (mergeSettings base override) (mergeSettings base' override') := by
    rw [hmerged, hmerged']
    refine ⟨⟨_, rfl⟩, ⟨_, rfl⟩, ?_⟩
    simp only [List.forall_mem_cons]
    exact ⟨rfl, rfl, rfl, List.forall_mem_nil _⟩
  have hclient : AgreeOn "client"
      ["server_url", "timeout", "max_attempts", "username", "password_env"]
      (mergeSettings base override) (mergeSettings base' override') := by
    rw [hmerged, hmerged']
    refine ⟨⟨_, rfl⟩, ⟨_, rfl⟩, ?_⟩
    simp only [List.forall_mem_cons]
    exact ⟨rfl, rfl, rfl, rfl, rfl, List.forall_mem_nil _⟩
  have henv : ∀ name, ClientSettings.passwordVariable?
      (valuesOf (mergeSettings base override) "client") = some name →
      Entries.get? env name = Entries.get? env' name := by
    intro name hname
    rw [hmerged] at hname
    have hsite : ClientSettings.passwordVariable? (valuesOf [("log", .obj []), ("client", .obj
        [("server_url", .str "http://h"), ("username", .str "u"), ("password", .str "a"),
          ("password_env", .str " SITE ")])] "client") = some "SITE" := by decide
    cases hsite.symm.trans hname
    decide
  obtain ⟨hsame, -⟩ := Settings.parse_confined hlog hclient henv
  have hparse : Settings.parse env (.obj (mergeSettings base override)) = .ok
      { log := { level := "INFO", toFile := false, directory := "log" }
        client :=
          { serverUrl := "http://h"
            timeout := .ofNat 30
            maxAttempts := 3
            username := "u"
            passwordVariable := "SITE"
            password := "s" } } := by
    rw [hmerged]
    exact eq_ok_of_toOption (by decide +kernel)
  exact ⟨_, rfl, hparse, hsame.symm.trans hparse⟩

end SearchBuilder
