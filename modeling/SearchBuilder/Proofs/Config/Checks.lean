import Mathlib
import SearchBuilder.Proofs.Config.Settings
import SearchBuilder.Proofs.Number.Rounding
import SearchBuilder.Proofs.Text.Split

/-!
# What is wrong with settings

Everything that is wrong with settings is listed in the order in which it counts: first what is
missing or of the wrong type, of the section `log` and then of `client`
(`Settings.misfits`), and, if nothing is, the values that cannot be used, in the same order
(`Settings.violations`). The first fault of these lists is the one that settings are refused for,
and settings with no fault are accepted (`Settings.parse_decided`).
-/

namespace SearchBuilder

/-! ## First faults -/

section

variable {ε α β : Type}

/-- The fault that a computation ends in. -/
def faultOf? : Except ε α → Option ε
  | .error fault => some fault
  | .ok _ => none

theorem eq_error_of_faultOf? {computed : Except ε α} {fault : ε}
    (h : faultOf? computed = some fault) : computed = .error fault := by
  cases computed with
  | error found => rw [Option.some.inj h]
  | ok value => cases h

theorem eq_ok_of_faultOf? {computed : Except ε α} (h : faultOf? computed = none) :
    ∃ value, computed = .ok value := by
  cases computed with
  | error found => cases h
  | ok value => exact ⟨value, rfl⟩

/-- What is found later counts only if nothing was found before. -/
theorem faultOf?_bind {first : Except ε α} {next : α → Except ε β} {l m : List ε}
    (hfirst : faultOf? first = l.head?)
    (hnext : ∀ value, first = .ok value → faultOf? (next value) = m.head?) :
    faultOf? (first >>= next) = (l ++ m).head? := by
  rw [List.head?_append, ← hfirst]
  cases first with
  | error fault => rfl
  | ok value => exact hnext value rfl

end

/-- A fault, unless a condition is met. -/
def faultUnless (met : Prop) [Decidable met] (fault : SettingsFault) :
    List SettingsFault :=
  if met then [] else [fault]

theorem faultUnless_eq_nil_iff {met : Prop} [Decidable met] {fault : SettingsFault} :
    faultUnless met fault = [] ↔ met := by
  unfold faultUnless
  by_cases hmet : met
  · rw [if_pos hmet]
    exact iff_of_true rfl hmet
  · rw [if_neg hmet]
    exact iff_of_false (List.cons_ne_nil fault []) hmet

theorem eq_of_mem_faultUnless {met : Prop} [Decidable met] {fault found : SettingsFault}
    (h : found ∈ faultUnless met fault) : found = fault ∧ ¬ met := by
  unfold faultUnless at h
  split at h
  · cases h
  · next hmet => exact ⟨List.mem_singleton.1 h, hmet⟩

/-! ## Types -/

/-- What the value of a setting must be. -/
inductive SettingType where
  | text
  | boolean
  | integer
  | number
  deriving DecidableEq, Repr

namespace SettingType

def admits : SettingType → Json → Bool
  | text, .str _ | boolean, .bool _ | integer, .int _ | number, .int _ | number, .float _ => true
  | _, _ => false

/-- The fault of a value of another type. -/
def misfit (key : String) : SettingType → SettingsFault
  | text => .notText key
  | boolean => .notBoolean key
  | integer => .notInteger key
  | number => .notNumber key

/-- Whether a value is a number beyond the doubles. -/
def overflows : SettingType → Json → Bool
  | number, .int whole => Binary64.overflow ≤ whole.natAbs
  | _, _ => false

def faults (type : SettingType) (key : String) (value : Json) : List SettingsFault :=
  faultUnless (type.admits value) (type.misfit key) ++
    faultUnless (!type.overflows value) (.tooLarge key)

end SettingType

/-- A setting of a section. One that has no usual value must be there. -/
structure SettingRule where
  name : String
  type : SettingType
  usual? : Option Json

/-- What is wrong with the value of a setting. A null stands for the usual value. -/
def SettingRule.faults (rule : SettingRule) (key : String) (value? : Option Json) :
    List SettingsFault :=
  match rule.usual?, value? with
  | none, none => [.missing key]
  | none, some value => rule.type.faults key value
  | some usual, value? => rule.type.faults key (Settings.usualUnless usual value?)

/-- A section with its settings, in the order in which they are read. -/
structure SectionRules where
  name : String
  isNeeded : Bool
  settings : List SettingRule

namespace SectionRules

/-- The name of a setting within all settings. -/
def key (rules : SectionRules) (rule : SettingRule) : String := rules.name ++ "." ++ rule.name

/-- What is wrong with a section itself. -/
def ownFaults (rules : SectionRules) (settings : Entries Json) : List SettingsFault :=
  match Entries.get? settings rules.name with
  | none | some .null => faultUnless (!rules.isNeeded) (.missing rules.name)
  | some (.obj _) => []
  | some _ => [.notObject rules.name]

/-- What is wrong with the types of a section. -/
def faults (rules : SectionRules) (settings : Entries Json) : List SettingsFault :=
  rules.ownFaults settings ++ rules.settings.flatMap fun rule =>
    rule.faults (rules.key rule) (Settings.valuesOf settings rules.name rule.name)

/-- The names of a section and its settings. -/
def keys (rules : SectionRules) : List String := rules.name :: rules.settings.map rules.key

end SectionRules

def LogSettings.rules : SectionRules where
  name := "log"
  isNeeded := false
  settings :=
    [⟨"level", .text, some (.str "INFO")⟩, ⟨"to_file", .boolean, some (.bool false)⟩,
      ⟨"dir", .text, some (.str "log")⟩]

def ClientSettings.rules : SectionRules where
  name := "client"
  isNeeded := true
  settings :=
    [⟨"password_env", .text, some (.str "ELASTIC_PASSWORD")⟩, ⟨"server_url", .text, none⟩,
      ⟨"timeout", .number, some (.int 30)⟩, ⟨"max_attempts", .integer, some (.int 3)⟩,
      ⟨"username", .text, some (.str "")⟩]

/-- What is missing in settings or of the wrong type. -/
def Settings.misfits (settings : Entries Json) : List SettingsFault :=
  LogSettings.rules.faults settings ++ ClientSettings.rules.faults settings

/-! ## Values -/

def LogSettings.violations (s : LogSettings) : List SettingsFault :=
  faultUnless (s.level ∈ levels) .unknownLevel ++
    faultUnless (∃ c ∈ s.directory.toList, isBlank c = false) .blankDirectory

def ClientSettings.violations (s : ClientSettings) : List SettingsFault :=
  faultUnless (s.serverUrl ≠ "") .noServer ++
    (faultUnless (s.timeout = .nan ∨ Binary64.lt (.zero false) s.timeout) .badTimeout ++
      (faultUnless (1 ≤ s.maxAttempts) .noAttempts ++
        faultUnless (s.username = "" ∨ s.passwordVariable ≠ "") .noPasswordVariable))

/-- What cannot be used among the values of settings. -/
def Settings.violations (s : Settings) : List SettingsFault :=
  s.log.violations ++ s.client.violations

/-- What settings satisfy that are accepted. -/
structure Settings.Valid (s : Settings) : Prop where
  level : s.log.level ∈ ["DEBUG", "INFO", "WARNING", "ERROR", "CRITICAL"]
  directory : ∃ c ∈ s.log.directory.toList, isBlank c = false
  serverUrl : s.client.serverUrl ≠ ""
  serverUrl_head : ∀ c, s.client.serverUrl.toList.head? = some c → isBlank c = false
  serverUrl_last : ∀ c, s.client.serverUrl.toList.getLast? = some c → isBlank c = false
  timeout : s.client.timeout = .nan ∨ Binary64.lt (.zero false) s.client.timeout
  maxAttempts : 1 ≤ s.client.maxAttempts
  passwordVariable : s.client.username ≠ "" → s.client.passwordVariable ≠ ""

/-! ## Reading a section -/

namespace Settings

theorem faultOf?_asText (key : String) (value : Json) :
    faultOf? (asText key value) = (SettingType.text.faults key value).head? := by
  cases value <;> rfl

theorem faultOf?_asBoolean (key : String) (value : Json) :
    faultOf? (asBoolean key value) = (SettingType.boolean.faults key value).head? := by
  cases value <;> rfl

theorem faultOf?_asInteger (key : String) (value : Json) :
    faultOf? (asInteger key value) = (SettingType.integer.faults key value).head? := by
  cases value <;> rfl

theorem faults_number_int (key : String) (whole : Int) :
    SettingType.number.faults key (.int whole) =
      faultUnless (¬ Binary64.overflow ≤ whole.natAbs) (.tooLarge key) := by
  obtain ⟨limit, hlimit⟩ : ∃ limit, limit = Binary64.overflow := ⟨_, rfl⟩
  unfold SettingType.faults SettingType.overflows
  rw [← hlimit]
  simp [faultUnless, SettingType.admits]

/-- A number is refused for its first fault. -/
theorem faultOf?_asNumber (key : String) (value : Json) :
    faultOf? (asNumber key value) = (SettingType.number.faults key value).head? := by
  -- Neither rounding nor its limit is computed.
  have hrange (whole : Int) := Binary64.ofInt?_eq_none_iff whole
  obtain ⟨round, hround⟩ : ∃ round, round = Binary64.ofInt? := ⟨_, rfl⟩
  unfold asNumber
  rw [← hround] at hrange ⊢
  split
  · rfl
  · next whole =>
    rw [faults_number_int]
    split
    · next x hx =>
      have hheld : ¬ Binary64.overflow ≤ whole.natAbs := fun h => by
        rw [(hrange whole).2 h] at hx
        cases hx
      rw [faultUnless, if_pos hheld]
      rfl
    · next hx =>
      rw [faultUnless, if_neg (not_not_intro ((hrange whole).1 hx))]
      rfl
  · next hfloat hint =>
    cases value with
    | float x => exact absurd rfl (hfloat x)
    | int whole => exact absurd rfl (hint whole)
    | _ => rfl

/-- What is wrong with a section that is read. -/
theorem ownFaults_of_section? (settings : Entries Json) (rules : SectionRules) :
    match section? settings rules.name with
    | .error fault => rules.ownFaults settings = [fault]
    | .ok none =>
      rules.ownFaults settings = faultUnless (!rules.isNeeded) (.missing rules.name)
    | .ok (some _) => rules.ownFaults settings = [] := by
  unfold section? SectionRules.ownFaults
  cases Entries.get? settings rules.name with
  | none => rfl
  | some value => cases value <;> rfl

end Settings

open Settings

/-- The log section is refused for the first fault of its settings. -/
theorem LogSettings.faultOf?_parse (settings : Entries Json) :
    faultOf? (LogSettings.parse settings) = (rules.faults settings).head? := by
  unfold LogSettings.parse SectionRules.faults
  refine faultOf?_bind ?_ fun members? hsection => ?_
  · have hown := ownFaults_of_section? settings rules
    change faultOf? (section? settings rules.name) = _
    cases hsection : section? settings rules.name with
    | error fault =>
      rw [hsection] at hown
      rw [hown]
      rfl
    | ok members? =>
      rw [hsection] at hown
      cases members? <;> (rw [hown]; rfl)
  · have hvalue (key : String) (usual : Json) :
        Settings.optional (members?.getD []) key usual =
          usualUnless usual (valuesOf settings "log" key) := by
      rw [optional_eq, get?_section hsection]
    simp only [rules, List.flatMap_cons, List.flatMap_nil, hvalue]
    refine faultOf?_bind (faultOf?_asText _ _) fun level _ => ?_
    refine faultOf?_bind (faultOf?_asBoolean _ _) fun toFile _ => ?_
    refine faultOf?_bind (faultOf?_asText _ _) fun directory _ => ?_
    rfl

theorem ClientSettings.faultOf?_parse (env : Environment) (settings : Entries Json) :
    faultOf? (ClientSettings.parse env settings) = (rules.faults settings).head? := by
  have hown := ownFaults_of_section? settings rules
  change match section? settings "client" with
    | .error fault => _
    | .ok none => _
    | .ok (some _) => _ at hown
  unfold ClientSettings.parse SectionRules.faults
  cases hsection : section? settings "client" with
  | error fault =>
    rw [hsection] at hown
    rw [hown]
    rfl
  | ok members? =>
    rw [hsection] at hown
    cases members? with
    | none =>
      rw [hown]
      rfl
    | some members =>
      have hget (key : String) : Entries.get? members key = valuesOf settings "client" key :=
        get?_section hsection key
      have hvalue (key : String) (usual : Json) :
          Settings.optional members key usual =
            usualUnless usual (valuesOf settings "client" key) := by
        rw [optional_eq, hget]
      rw [hown]
      refine faultOf?_bind rfl fun found hfound => ?_
      cases hfound
      simp only [rules, List.flatMap_cons, List.flatMap_nil, hvalue, hget]
      refine faultOf?_bind (faultOf?_asText _ _) fun passwordVariable _ => ?_
      cases valuesOf settings "client" "server_url" with
      | none => rfl
      | some server =>
        refine faultOf?_bind (faultOf?_asText _ _) fun serverUrl _ => ?_
        refine faultOf?_bind (faultOf?_asNumber _ _) fun timeout _ => ?_
        refine faultOf?_bind (faultOf?_asInteger _ _) fun maxAttempts _ => ?_
        refine faultOf?_bind (faultOf?_asText _ _) fun username _ => ?_
        rfl

/-! ## Checking a section -/

theorem faultOf?_refused {bad met : Prop} [Decidable bad] [Decidable met] (h : bad ↔ ¬ met)
    {fault : SettingsFault} {rest : Except SettingsFault Unit} {m : List SettingsFault}
    (hrest : faultOf? rest = m.head?) :
    faultOf? (if bad then .error fault else rest) = (faultUnless met fault ++ m).head? := by
  unfold faultUnless
  by_cases hmet : met
  · rw [if_pos hmet, if_neg fun hbad => h.1 hbad hmet]
    exact hrest
  · rw [if_neg hmet, if_pos (h.2 hmet)]
    rfl

/-- Log settings are refused for their first violation. -/
theorem LogSettings.faultOf?_check (s : LogSettings) :
    faultOf? s.check = s.violations.head? := by
  have hblank : (stripBlanks s.directory).isEmpty = true ↔
      ¬ ∃ c ∈ s.directory.toList, isBlank c = false := by
    rw [String.isEmpty_iff, stripBlanks, String.ofList_eq_empty_iff, trimBoth_eq_nil_iff]
    simp
  unfold check violations
  refine faultOf?_refused (by simp) ?_
  rw [← List.append_nil (faultUnless _ .blankDirectory)]
  exact faultOf?_refused hblank rfl

theorem Binary64.le_zero_iff (x : Binary64) :
    x.le (.zero false) = true ↔ ¬ (x = .nan ∨ Binary64.lt (.zero false) x = true) := by
  have hzero : (Binary64.zero false).isNaN = false := rfl
  cases x with
  | nan => simp [Binary64.le, Binary64.isNaN]
  | signed negative rank =>
    have hnumber : (Binary64.signed negative rank).isNaN = false := rfl
    simp [Binary64.le, Binary64.lt, hzero, hnumber]

theorem ClientSettings.faultOf?_check (s : ClientSettings) :
    faultOf? s.check = s.violations.head? := by
  unfold check violations
  refine faultOf?_refused (by simp) ?_
  refine faultOf?_refused s.timeout.le_zero_iff ?_
  refine faultOf?_refused Int.not_le.symm ?_
  rw [← List.append_nil (faultUnless _ .noPasswordVariable)]
  exact faultOf?_refused (by simp) rfl

/-! ## Reading and checking -/

namespace Settings

/-- Settings are refused for the first that misfits. -/
theorem parse_of_misfit (env : Environment) {members : Entries Json} {fault : SettingsFault}
    (h : (misfits members).head? = some fault) :
    Settings.parse env (.obj members) = .error fault := by
  have hlog := LogSettings.faultOf?_parse members
  have hclient := ClientSettings.faultOf?_parse env members
  unfold misfits at h
  rw [List.head?_append, ← hlog, ← hclient] at h
  rw [parse_obj]
  cases hl : LogSettings.parse members with
  | error found =>
    rw [hl] at h
    rw [← Option.some.inj h]
    rfl
  | ok log =>
    rw [hl] at h
    have hfault : ClientSettings.parse env members = .error fault := eq_error_of_faultOf? h
    rw [hfault]
    rfl

/-- Settings that fit are read, and refused for their first violation. -/
theorem parse_of_fitting (env : Environment) {members : Entries Json}
    (h : misfits members = []) :
    ∃ s : Settings, s.log.Reads (valuesOf members "log") ∧
      s.client.Reads env (valuesOf members "client") ∧
      faultOf? (Settings.parse env (.obj members)) = s.violations.head? ∧
      (s.violations = [] → Settings.parse env (.obj members) = .ok s) := by
  obtain ⟨hlogFits, hclientFits⟩ := List.append_eq_nil_iff.1 h
  have hlog := LogSettings.faultOf?_parse members
  have hclient := ClientSettings.faultOf?_parse env members
  rw [hlogFits] at hlog
  rw [hclientFits] at hclient
  obtain ⟨log, hlog⟩ := eq_ok_of_faultOf? hlog
  obtain ⟨client, hclient⟩ := eq_ok_of_faultOf? hclient
  have hparse : Settings.parse env (.obj members) =
      (log.check >>= fun _ => client.check >>= fun _ => .ok { log, client }) := by
    rw [parse_obj, hlog, hclient]
    rfl
  have hchecks : faultOf? (Settings.parse env (.obj members)) =
      (Settings.violations { log, client }).head? := by
    rw [hparse]
    refine faultOf?_bind log.faultOf?_check fun _ _ => ?_
    rw [← List.append_nil client.violations]
    exact faultOf?_bind client.faultOf?_check fun _ _ => rfl
  refine ⟨{ log, client }, LogSettings.parse_reads hlog, ClientSettings.parse_reads hclient,
    hchecks, fun hnone => ?_⟩
  rw [hnone] at hchecks
  obtain ⟨s, hs⟩ := eq_ok_of_faultOf? hchecks
  rw [hs] at hparse
  obtain ⟨_, -, hrest⟩ := exists_of_bind_eq_ok hparse.symm
  obtain ⟨_, -, hsame⟩ := exists_of_bind_eq_ok hrest
  rw [hs, hsame]

/-- Settings without violations are valid. -/
theorem valid_of_violations {s : Settings}
    (hserver : ∃ text, s.client.serverUrl = stripBlanks text) (h : s.violations = []) :
    s.Valid := by
  simp only [violations, LogSettings.violations, ClientSettings.violations,
    List.append_eq_nil_iff, faultUnless_eq_nil_iff] at h
  obtain ⟨⟨hlevel, hdirectory⟩, hnotEmpty, htimeout, hattempts, hvariable⟩ := h
  obtain ⟨text, htext⟩ := hserver
  have hstripped : s.client.serverUrl.toList = trimBoth isBlank text.toList := by
    rw [htext, stripBlanks, String.toList_ofList]
  refine ⟨?_, hdirectory, hnotEmpty, fun c hc => ?_, fun c hc => ?_, htimeout, hattempts, ?_⟩
  · have hsame : ∀ level ∈ LogSettings.levels,
        level ∈ ["DEBUG", "INFO", "WARNING", "ERROR", "CRITICAL"] := by decide
    exact hsame _ hlevel
  · exact head?_trimBoth (hstripped ▸ hc)
  · exact getLast?_trimBoth (hstripped ▸ hc)
  · exact fun husername => hvariable.resolve_left husername

end Settings

/-! ## What faults say -/

namespace SettingsFault

/-- The setting that a fault is about. -/
def key? : SettingsFault → Option String
  | noObject => none
  | missing key | notObject key | notText key | notBoolean key | notInteger key | notNumber key
  | tooLarge key => some key
  | unknownLevel => some "log.level"
  | blankDirectory => some "log.dir"
  | noServer => some "client.server_url"
  | badTimeout => some "client.timeout"
  | noAttempts => some "client.max_attempts"
  | noPasswordVariable => some "client.password_env"

theorem infix_append (key rest : String) : key.toList <:+: (key ++ rest).toList :=
  ⟨[], rest.toList, (String.toList_append ..).symm⟩

/-- A fault in words names the setting that it is about. -/
theorem key?_infix_message {fault : SettingsFault} {key : String} (h : fault.key? = some key) :
    key.toList <:+: fault.message.toList := by
  cases fault with
  | noObject => cases h
  | missing missed =>
    cases h
    refine ⟨"Missing required config: ".toList, [], ?_⟩
    rw [List.append_nil]
    exact (String.toList_append ..).symm
  | unknownLevel =>
    cases h
    have hbegins : "log.level".toList <:+: "log.level must be one of [".toList := ⟨[], _, rfl⟩
    unfold message
    exact hbegins.trans ((infix_append _ _).trans (infix_append _ _))
  | blankDirectory | noServer | badTimeout | noAttempts | noPasswordVariable =>
    cases h
    exact ⟨[], _, rfl⟩
  | notObject _ | notText _ | notBoolean _ | notInteger _ | notNumber _ | tooLarge _ =>
    cases h
    exact infix_append key _

end SettingsFault

/-- What is wrong with a value is its type, unless it is a number that no double is near to. -/
theorem SettingType.mem_faults {type : SettingType} {key : String} {value : Json}
    {fault : SettingsFault} (h : fault ∈ type.faults key value) :
    fault.key? = some key ∧ (fault.nature = .type ∨ type = .number ∧ fault = .tooLarge key ∧
      ∃ whole, value = .int whole ∧ Binary64.overflow ≤ whole.natAbs) := by
  obtain hmisfit | hlarge := List.mem_append.1 h
  · obtain ⟨rfl, -⟩ := eq_of_mem_faultUnless hmisfit
    cases type <;> exact ⟨rfl, .inl rfl⟩
  · obtain ⟨rfl, hoverflows⟩ := eq_of_mem_faultUnless hlarge
    refine ⟨rfl, .inr ?_⟩
    unfold SettingType.overflows at hoverflows
    split at hoverflows
    · next whole => exact ⟨rfl, rfl, whole, rfl, by simpa using hoverflows⟩
    · exact absurd rfl hoverflows

/-- A usual value is one that the setting may have. -/
def SettingRule.UsualFits (rule : SettingRule) : Prop :=
  ∀ usual, rule.usual? = some usual → ∀ key, rule.type.faults key usual = []

/-- A fault of a setting names its key, but for a number that is too large. -/
theorem SettingRule.mem_faults {rule : SettingRule} (hfits : rule.UsualFits) {key : String}
    {value? : Option Json} {fault : SettingsFault} (h : fault ∈ rule.faults key value?) :
    fault.key? = some key ∧ ((fault.nature = .type ∨ fault.nature = .value) ∨
      rule.type = .number ∧ fault = .tooLarge key ∧
        ∃ whole, value? = some (.int whole) ∧ Binary64.overflow ≤ whole.natAbs) := by
  have hgiven {value : Json} (h : fault ∈ rule.type.faults key value) :
      fault.key? = some key ∧ ((fault.nature = .type ∨ fault.nature = .value) ∨
        rule.type = .number ∧ fault = .tooLarge key ∧
          ∃ whole, some value = some (.int whole) ∧ Binary64.overflow ≤ whole.natAbs) := by
    obtain ⟨hkey, htype | ⟨hnumber, hlarge, whole, rfl, hwhole⟩⟩ := SettingType.mem_faults h
    · exact ⟨hkey, .inl (.inl htype)⟩
    · exact ⟨hkey, .inr ⟨hnumber, hlarge, whole, rfl, hwhole⟩⟩
  unfold SettingRule.faults at h
  split at h
  · rw [List.mem_singleton.1 h]
    exact ⟨rfl, .inl (.inr rfl)⟩
  · exact hgiven h
  · next _ usual husual =>
    unfold usualUnless at h
    split at h
    · rw [hfits usual husual] at h
      cases h
    · rw [hfits usual husual] at h
      cases h
    · exact hgiven h

/-- A fault of a section names a key of it, but for a number that is too large. -/
theorem SectionRules.mem_faults {rules : SectionRules}
    (hfits : ∀ rule ∈ rules.settings, rule.UsualFits) {settings : Entries Json}
    {fault : SettingsFault} (h : fault ∈ rules.faults settings) :
    (∃ key ∈ rules.keys, fault.key? = some key ∧
        (fault.nature = .type ∨ fault.nature = .value)) ∨
      ∃ rule ∈ rules.settings, rule.type = .number ∧ fault = .tooLarge (rules.key rule) ∧
        ∃ whole, valuesOf settings rules.name rule.name = some (.int whole) ∧
          Binary64.overflow ≤ whole.natAbs := by
  obtain hown | hsettings := List.mem_append.1 h
  · refine .inl ⟨rules.name, List.mem_cons_self, ?_⟩
    unfold SectionRules.ownFaults at hown
    split at hown
    · obtain ⟨rfl, -⟩ := eq_of_mem_faultUnless hown
      exact ⟨rfl, .inr rfl⟩
    · obtain ⟨rfl, -⟩ := eq_of_mem_faultUnless hown
      exact ⟨rfl, .inr rfl⟩
    · cases hown
    · rw [List.mem_singleton.1 hown]
      exact ⟨rfl, .inl rfl⟩
  · obtain ⟨rule, hrule, hfault⟩ := List.mem_flatMap.1 hsettings
    obtain ⟨hkey, hnamed | hlarge⟩ := SettingRule.mem_faults (hfits rule hrule) hfault
    · exact .inl ⟨_, List.mem_cons_of_mem _ (List.mem_map_of_mem hrule), hkey, hnamed⟩
    · exact .inr ⟨rule, hrule, hlarge⟩

theorem LogSettings.usualFits : ∀ rule ∈ rules.settings, rule.UsualFits := by
  intro rule hrule usual husual key
  simp only [rules, List.mem_cons, List.not_mem_nil, or_false] at hrule
  rcases hrule with rfl | rfl | rfl <;> (cases husual; rfl)

theorem ClientSettings.usualFits : ∀ rule ∈ rules.settings, rule.UsualFits := by
  intro rule hrule usual husual key
  simp only [rules, List.mem_cons, List.not_mem_nil, or_false] at hrule
  rcases hrule with rfl | rfl | rfl | rfl | rfl
  · cases husual
    rfl
  · cases husual
  · cases husual
    have hheld : ¬ Binary64.overflow ≤ (30 : Int).natAbs := by decide +kernel
    rw [faults_number_int, faultUnless, if_pos hheld]
  · cases husual
    rfl
  · cases husual
    rfl

namespace Settings

/-- The names of all settings and of their sections. -/
def keys : List String := LogSettings.rules.keys ++ ClientSettings.rules.keys

/-- A violation names its key and is one of value. -/
theorem mem_violations {s : Settings} {fault : SettingsFault} (h : fault ∈ s.violations) :
    ∃ key ∈ keys, fault.key? = some key ∧ fault.nature = .value := by
  simp only [violations, LogSettings.violations, ClientSettings.violations, List.mem_append] at h
  rcases h with (h | h) | h | h | h | h
  all_goals
    obtain ⟨rfl, -⟩ := eq_of_mem_faultUnless h
    exact ⟨_, by decide, rfl, rfl⟩

/-- A misfit names its key, but for a timeout that is too large. -/
theorem mem_misfits {members : Entries Json} {fault : SettingsFault}
    (h : fault ∈ misfits members) :
    (∃ key ∈ keys, fault.key? = some key ∧ (fault.nature = .type ∨ fault.nature = .value)) ∨
      fault = .tooLarge "client.timeout" ∧ ∃ whole,
        valuesOf members "client" "timeout" = some (.int whole) ∧
          Binary64.overflow ≤ whole.natAbs := by
  obtain hlog | hclient := List.mem_append.1 h
  · obtain ⟨key, hkey, hnamed⟩ | ⟨rule, hrule, hnumber, -⟩ :=
      SectionRules.mem_faults LogSettings.usualFits hlog
    · exact .inl ⟨key, List.mem_append_left _ hkey, hnamed⟩
    · have hnone : ∀ rule ∈ LogSettings.rules.settings, rule.type ≠ .number := by
        simp [LogSettings.rules]
      exact absurd hnumber (hnone rule hrule)
  · obtain ⟨key, hkey, hnamed⟩ | ⟨rule, hrule, hnumber, hlarge⟩ :=
      SectionRules.mem_faults ClientSettings.usualFits hclient
    · exact .inl ⟨key, List.mem_append_right _ hkey, hnamed⟩
    · -- The timeout is the one setting that is any number.
      have hone : ∀ rule ∈ ClientSettings.rules.settings, rule.type = .number →
          rule.name = "timeout" := by
        simp [ClientSettings.rules]
      rw [SectionRules.key, hone rule hrule hnumber] at hlarge
      exact .inr hlarge

/-- Settings are refused for the first thing that is missing or of the wrong type, or else for the
first value that cannot be used, and accepted otherwise. What is accepted can be used. What is
refused is told by the name of a setting, but for a timeout that no double is near to. -/
theorem parse_decided (env : Environment) (members : Entries Json) :
    let outcome := Settings.parse env (.obj members)
    (∀ fault, (misfits members).head? = some fault → outcome = .error fault) ∧
      (misfits members = [] → ∃ s : Settings,
        s.log.Reads (valuesOf members "log") ∧ s.client.Reads env (valuesOf members "client") ∧
        (∀ fault, s.violations.head? = some fault → outcome = .error fault) ∧
        (s.violations = [] → outcome = .ok s)) ∧
      (∀ s, outcome = .ok s → s.Valid) ∧
      ∀ fault, outcome = .error fault →
        ((fault.nature = .type ∨ fault.nature = .value) ∧
          ∃ key ∈ keys, fault.key? = some key ∧ key.toList <:+: fault.message.toList) ∨
        fault = .tooLarge "client.timeout" ∧ ∃ whole,
          valuesOf members "client" "timeout" = some (.int whole) ∧
            Binary64.overflow ≤ whole.natAbs := by
  intro outcome
  have hrefused (fault : SettingsFault) (h : (misfits members).head? = some fault) :
      outcome = .error fault := parse_of_misfit env h
  refine ⟨hrefused, fun hfits => ?_, fun s hs => ?_, fun fault hfault => ?_⟩
  · obtain ⟨s, hlog, hclient, hfirst, haccepted⟩ := parse_of_fitting env hfits
    exact ⟨s, hlog, hclient, fun fault h => eq_error_of_faultOf? (hfirst.trans h), haccepted⟩
  · obtain ⟨-, hclient, hlogCheck, hclientCheck⟩ := parse_reads hs
    have hlogNone : s.log.violations.head? = none := by
      rw [← LogSettings.faultOf?_check, hlogCheck]
      rfl
    have hclientNone : s.client.violations.head? = none := by
      rw [← ClientSettings.faultOf?_check, hclientCheck]
      rfl
    obtain ⟨text, -, htext⟩ := hclient.serverUrl
    refine valid_of_violations ⟨text, htext⟩ ?_
    rw [violations, List.head?_eq_none_iff.1 hlogNone, List.head?_eq_none_iff.1 hclientNone]
    rfl
  · have hnamed {key : String} (hkey : key ∈ keys) (hfaultKey : fault.key? = some key) :
        ∃ key ∈ keys, fault.key? = some key ∧ key.toList <:+: fault.message.toList :=
      ⟨key, hkey, hfaultKey, SettingsFault.key?_infix_message hfaultKey⟩
    cases hmisfits : (misfits members).head? with
    | some found =>
      have hsame := (hrefused found hmisfits).symm.trans hfault
      cases hsame
      obtain ⟨key, hkey, hfaultKey, hnature⟩ | hlarge := mem_misfits (List.mem_of_head? hmisfits)
      · exact .inl ⟨hnature, hnamed hkey hfaultKey⟩
      · exact .inr hlarge
    | none =>
      obtain ⟨s, -, -, hfirst, -⟩ := parse_of_fitting env (List.head?_eq_none_iff.1 hmisfits)
      change faultOf? outcome = _ at hfirst
      rw [hfault] at hfirst
      obtain ⟨key, hkey, hfaultKey, hnature⟩ := mem_violations (List.mem_of_head? hfirst.symm)
      exact .inl ⟨.inr hnature, hnamed hkey hfaultKey⟩

example :
    Settings.parse [] (.obj [("log", .obj [("level", .str "loud")]), ("client", .null)]) =
      .error (.missing "client") := rfl

/-- A timeout that no double is near to is refused as neither of the wrong type nor unusable. -/
theorem parse_decided_oversize :
    let settings := [("client", Json.obj
      [("server_url", .str "http://h"), ("timeout", .int (Nat.pow 10 309))])]
    Settings.parse [] (.obj settings) = .error (.tooLarge "client.timeout") ∧
      (SettingsFault.tooLarge "client.timeout").nature = .overflow := by
  intro settings
  have hfirst : (misfits settings).head? = some (.tooLarge "client.timeout") := by
    decide +kernel
  exact ⟨(parse_decided [] settings).1 _ hfirst, rfl⟩

end Settings

end SearchBuilder
