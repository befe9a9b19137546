import SearchBuilder.Config.Connect

/-!
# What settings are read from

`LogSettings.Reads` and `ClientSettings.Reads` tie every field of settings to the value that it is
read from. Settings that parse are read so (`Settings.parse_reads`) and pass their own checks, which
is why a client can be made of them whenever their server has a URL
(`ClientSettings.connect_of_check`).
-/

namespace SearchBuilder

/-- What is bound was computed before. -/
theorem exists_of_bind_eq_ok {ε α β : Type} {first : Except ε α} {next : α → Except ε β}
    {result : β} (h : (first >>= next) = .ok result) :
    ∃ value, first = .ok value ∧ next value = .ok result := by
  cases first with
  | error fault => cases h
  | ok value => exact ⟨value, rfl, h⟩

theorem eq_ok_of_mapError {ε ε' α : Type} {computed : Except ε α} {f : ε → ε'} {value : α}
    (h : computed.mapError f = .ok value) : computed = .ok value := by
  cases computed with
  | error fault => cases h
  | ok result => rw [Except.ok.inj h]

theorem eq_ok_of_toOption {ε α : Type} {computed : Except ε α} {value : α}
    (h : computed.toOption = some value) : computed = .ok value := by
  cases computed with
  | error fault => cases h
  | ok result => rw [Option.some.inj h]

namespace Settings

/-! ## Values of a type -/

theorem eq_str_of_asText {key : String} {value : Json} {text : String}
    (h : asText key value = .ok text) : value = .str text := by
  unfold asText at h
  split at h
  · rw [Except.ok.inj h]
  · cases h

theorem eq_bool_of_asBoolean {key : String} {value : Json} {flag : Bool}
    (h : asBoolean key value = .ok flag) : value = .bool flag := by
  unfold asBoolean at h
  split at h
  · rw [Except.ok.inj h]
  · cases h

theorem eq_int_of_asInteger {key : String} {value : Json} {whole : Int}
    (h : asInteger key value = .ok whole) : value = .int whole := by
  unfold asInteger at h
  split at h
  · rw [Except.ok.inj h]
  · cases h

/-- A double that a number is read as. -/
def IsNumber (value : Json) (x : Binary64) : Prop :=
  value = .float x ∨ ∃ whole, value = .int whole ∧ Binary64.ofInt? whole = some x

theorem IsNumber.ne_obj {value : Json} {x : Binary64} (h : IsNumber value x)
    (members : Entries Json) : value ≠ .obj members := by
  rintro rfl
  obtain hfloat | ⟨whole, hwhole, -⟩ := h
  · cases hfloat
  · cases hwhole

/-- Only numbers are taken as such, with their value. -/
theorem isNumber_of_asNumber {key : String} {value : Json} {x : Binary64}
    (h : asNumber key value = .ok x) : IsNumber value x := by
  -- Rounding is made opaque: to compare the cases of a rounded variable is to compute it.
  obtain ⟨round, hround⟩ : ∃ round, round = Binary64.ofInt? := ⟨_, rfl⟩
  unfold asNumber at h
  unfold IsNumber
  rw [← hround] at h ⊢
  split at h
  · rw [Except.ok.inj h]
    exact .inl rfl
  · next whole =>
    split at h
    · next y hy =>
      rw [Except.ok.inj h] at hy
      exact .inr ⟨whole, rfl, hy⟩
    · cases h
  · cases h

/-! ## Values of settings -/

/-- The value of an optional setting that may be missing or null. -/
def usualUnless (usual : Json) : Option Json → Json
  | none | some .null => usual
  | some value => value

/-- A setting that is missing or null has its usual value. -/
theorem optional_eq (members : Entries Json) (key : String) (usual : Json) :
    Settings.optional members key usual = usualUnless usual (Entries.get? members key) := by
  unfold Settings.optional usualUnless
  cases Entries.get? members key with
  | none => rfl
  | some value => cases value <;> rfl

/-- The values of a section, by their keys. -/
abbrev Values := String → Option Json

/-- The values that a section has. One that is missing or no mapping has none. -/
def valuesOf (settings : Entries Json) (name : String) : Values := fun key =>
  match Entries.get? settings name with
  | some (.obj members) => Entries.get? members key
  | _ => none

/-- A setting is read from its section. -/
theorem get?_section {settings : Entries Json} {name : String}
    {members? : Option (Entries Json)} (h : section? settings name = .ok members?) (key : String) :
    Entries.get? (members?.getD []) key = valuesOf settings name key := by
  unfold section? at h
  unfold valuesOf
  split at h
  · next hsection =>
    rw [hsection, ← Except.ok.inj h]
    rfl
  · next hsection =>
    rw [hsection, ← Except.ok.inj h]
    rfl
  · next members hsection =>
    rw [hsection, ← Except.ok.inj h]
    rfl
  · cases h

end Settings

open Settings

/-! ## Sections -/

structure LogSettings.Reads (values : Values) (s : LogSettings) : Prop where
  level : ∃ text, usualUnless (.str "INFO") (values "level") = .str text ∧
    s.level = upper text
  toFile : usualUnless (.bool false) (values "to_file") = .bool s.toFile
  directory : usualUnless (.str "log") (values "dir") = .str s.directory

theorem LogSettings.parse_reads {settings : Entries Json} {s : LogSettings}
    (h : LogSettings.parse settings = .ok s) : s.Reads (valuesOf settings "log") := by
  unfold LogSettings.parse at h
  obtain ⟨members?, hsection, h⟩ := exists_of_bind_eq_ok h
  have hvalue (key : String) (usual : Json) :
      Settings.optional (members?.getD []) key usual =
        usualUnless usual (valuesOf settings "log" key) := by
    rw [optional_eq, get?_section hsection]
  obtain ⟨level, hlevel, h⟩ := exists_of_bind_eq_ok h
  obtain ⟨toFile, htoFile, h⟩ := exists_of_bind_eq_ok h
  obtain ⟨directory, hdirectory, h⟩ := exists_of_bind_eq_ok h
  cases h
  rw [hvalue] at hlevel htoFile hdirectory
  exact ⟨⟨level, eq_str_of_asText hlevel, rfl⟩, eq_bool_of_asBoolean htoFile,
    eq_str_of_asText hdirectory⟩

structure ClientSettings.Reads (env : Environment) (values : Values) (s : ClientSettings) :
    Prop where
  /-- The server is the one setting that must be there. -/
  serverUrl : ∃ text, values "server_url" = some (.str text) ∧
    s.serverUrl = stripBlanks text
  timeout : IsNumber (usualUnless (.int 30) (values "timeout")) s.timeout
  maxAttempts : usualUnless (.int 3) (values "max_attempts") = .int s.maxAttempts
  username : ∃ text, usualUnless (.str "") (values "username") = .str text ∧
    s.username = stripBlanks text
  passwordVariable :
    ∃ text, usualUnless (.str "ELASTIC_PASSWORD") (values "password_env") = .str text ∧
      s.passwordVariable = stripBlanks text
  /-- The environment alone gives the password. -/
  password : s.password =
    if s.passwordVariable = "" then ""
    else stripBlanks ((Entries.get? env s.passwordVariable).getD "")

namespace ClientSettings

/-- The password is that of the named variable, without blanks around it. -/
theorem passwordOf_eq (env : Environment) (name : String) :
    passwordOf env name =
      if name = "" then "" else stripBlanks ((Entries.get? env name).getD "") := by
  simp only [passwordOf, String.isEmpty_iff]

theorem parse_reads {env : Environment} {settings : Entries Json} {s : ClientSettings}
    (h : ClientSettings.parse env settings = .ok s) :
    s.Reads env (valuesOf settings "client") := by
  unfold ClientSettings.parse at h
  obtain ⟨members?, hsection, h⟩ := exists_of_bind_eq_ok h
  cases members? with
  | none => cases h
  | some members =>
    have hget (key : String) : Entries.get? members key = valuesOf settings "client" key :=
      get?_section hsection key
    have hvalue (key : String) (usual : Json) :
        Settings.optional members key usual =
          usualUnless usual (valuesOf settings "client" key) := by
      rw [optional_eq, hget]
    obtain ⟨variableName, hvariable, h⟩ := exists_of_bind_eq_ok h
    cases hserver : Entries.get? members "server_url" with
    | none =>
      rw [hserver] at h
      cases h
    | some value =>
      rw [hserver] at h
      obtain ⟨server, htext, h⟩ := exists_of_bind_eq_ok h
      obtain ⟨timeout, htimeout, h⟩ := exists_of_bind_eq_ok h
      obtain ⟨maxAttempts, hmaxAttempts, h⟩ := exists_of_bind_eq_ok h
      obtain ⟨username, husername, h⟩ := exists_of_bind_eq_ok h
      cases h
      rw [hvalue] at hvariable htimeout hmaxAttempts husername
      rw [hget, eq_str_of_asText htext] at hserver
      refine ⟨⟨server, hserver, rfl⟩, ?_, ?_, ?_, ?_, ?_⟩
      · exact isNumber_of_asNumber htimeout
      · exact eq_int_of_asInteger hmaxAttempts
      · exact ⟨username, eq_str_of_asText husername, rfl⟩
      · exact ⟨variableName, eq_str_of_asText hvariable, rfl⟩
      · simp only [passwordOf_eq]

/-! ## Clients -/

theorem one_le_of_check {s : ClientSettings} (h : s.check = .ok ()) : 1 ≤ s.maxAttempts := by
  unfold check at h
  split at h
  · cases h
  · split at h
    · cases h
    · split at h
      · cases h
      · omega

/-- The client of settings that pass their checks. -/
theorem connect_of_check {s : ClientSettings} (hcheck : s.check = .ok ()) {url : String}
    (hurl : baseUrl (.str s.serverUrl) .null = .ok url) (replies : List Reply) :
    s.connect replies = .ok
      { baseUrl := url
        timeout := .float s.timeout
        attempts := .count s.maxAttempts.toNat
        auth := if s.username = "" then .null else .arr [.str s.username, .str s.password]
        replies } := by
  have hpos := one_le_of_check hcheck
  have hattempts :
      HttpClient.attemptsOf (.int s.maxAttempts) = .ok (.count s.maxAttempts.toNat) := by
    rw [HttpClient.attemptsOf, Nat.max_eq_right (by omega)]
  have hauth : s.auth =
      if s.username = "" then .null else .arr [.str s.username, .str s.password] := by
    by_cases husername : s.username = "" <;>
      simp [auth, credentials, Json.isTruthy, husername]
  simp only [connect, HttpClient.create, hurl, hattempts, hauth]
  rfl

theorem exists_baseUrl {s : ClientSettings} {replies : List Reply} {client : HttpClient}
    (h : s.connect replies = .ok client) :
    ∃ url, baseUrl (.str s.serverUrl) .null = .ok url := by
  unfold connect HttpClient.create at h
  obtain ⟨url, hurl, -⟩ := exists_of_bind_eq_ok h
  cases hbase : baseUrl (.str s.serverUrl) .null with
  | error fault =>
    rw [hbase] at hurl
    cases hurl
  | ok url => exact ⟨url, rfl⟩

end ClientSettings

/-- Settings parse if their sections do, which are then checked. -/
theorem Settings.parse_obj (env : Environment) (members : Entries Json) :
    Settings.parse env (.obj members) =
      (LogSettings.parse members >>= fun log =>
        ClientSettings.parse env members >>= fun client =>
          log.check >>= fun _ => client.check >>= fun _ => .ok { log, client }) := rfl

/-- Settings that parse are read from the values of their sections, and pass the checks. -/
theorem Settings.parse_reads {env : Environment} {members : Entries Json} {s : Settings}
    (h : Settings.parse env (.obj members) = .ok s) :
    s.log.Reads (valuesOf members "log") ∧ s.client.Reads env (valuesOf members "client") ∧
      s.log.check = .ok () ∧ s.client.check = .ok () := by
  unfold Settings.parse at h
  obtain ⟨log, hlog, h⟩ := exists_of_bind_eq_ok h
  obtain ⟨client, hclient, h⟩ := exists_of_bind_eq_ok h
  obtain ⟨_, hlogCheck, h⟩ := exists_of_bind_eq_ok h
  obtain ⟨_, hclientCheck, h⟩ := exists_of_bind_eq_ok h
  cases h
  exact ⟨LogSettings.parse_reads hlog, ClientSettings.parse_reads hclient, hlogCheck,
    hclientCheck⟩

end SearchBuilder
