import SearchBuilder.Document.Outcome
import SearchBuilder.Text.Blank
import SearchBuilder.Text.Case

/-!
# Settings

The settings of an application: a section `log` that may be missing and a section `client` that
may not. `Settings.parse` first reads both sections, which fails if something is missing or of the
wrong type, and checks afterwards what the values must satisfy; in both passes `log` comes before
`client`. Optional settings that are missing or null have their usual values.

The password is never part of the settings. It is looked up in the environment, under a name that
the settings give.
-/

namespace SearchBuilder

/-- The values of environment variables. -/
abbrev Environment := Entries String

/-- Where and from which level on messages are logged. -/
structure LogSettings where
  level : String
  toFile : Bool
  directory : String
  deriving DecidableEq, Repr

/-- The server that searches are sent to, and how. -/
structure ClientSettings where
  serverUrl : String
  timeout : Binary64
  maxAttempts : Int
  username : String
  passwordVariable : String
  password : String
  deriving DecidableEq, Repr

/-- The settings of an application. -/
structure Settings where
  log : LogSettings
  client : ClientSettings
  deriving DecidableEq, Repr

/-- Why settings cannot be used. -/
inductive SettingsFault where
  /-- The settings as a whole are no object. -/
  | noObject
  | missing (key : String)
  | notObject (key : String)
  | notText (key : String)
  | notBoolean (key : String)
  | notInteger (key : String)
  | notNumber (key : String)
  /-- An integer is too large for a double. -/
  | tooLarge (key : String)
  | unknownLevel
  | blankDirectory
  | noServer
  | badTimeout
  | noAttempts
  | noPasswordVariable
  deriving DecidableEq, Repr

namespace LogSettings

/-- The levels that settings may name. -/
def levels : List String := ["CRITICAL", "DEBUG", "ERROR", "INFO", "WARNING"]

end LogSettings

/-- A fault in words; it names the setting. -/
def SettingsFault.message : SettingsFault → String
  | noObject => "settings must be an object"
  | missing key => s!"Missing required config: {key}"
  | notObject key => s!"{key} must be an object"
  | notText key => s!"{key} must be a string"
  | notBoolean key => s!"{key} must be a boolean"
  | notInteger key => s!"{key} must be an integer"
  | notNumber key => s!"{key} must be a number"
  | tooLarge key => s!"{key} is too large"
  | unknownLevel =>
    let shown := ", ".intercalate (LogSettings.levels.map quotedText)
    s!"log.level must be one of [{shown}]"
  | blankDirectory => "log.dir must not be empty"
  | noServer => "client.server_url must not be empty"
  | badTimeout => "client.timeout must be > 0"
  | noAttempts => "client.max_attempts must be >= 1"
  | noPasswordVariable => "client.password_env is required when client.username is set"

/-- What kind of mistake a fault is. -/
inductive SettingsFault.Nature where
  /-- A value is of the wrong type. -/
  | type
  /-- A value is missing or one of its type that cannot be used. -/
  | value
  /-- A number is beyond what can be held. -/
  | overflow
  /-- Something without members is asked for them. -/
  | members
  deriving DecidableEq, Repr

/-- What kind of mistake a fault is. Settings that are no object are asked for their members all
the same. -/
def SettingsFault.nature : SettingsFault → SettingsFault.Nature
  | noObject => .members
  | notObject _ | notText _ | notBoolean _ | notInteger _ | notNumber _ => .type
  | tooLarge _ => .overflow
  | missing _ | unknownLevel | blankDirectory | noServer | badTimeout | noAttempts
  | noPasswordVariable => .value

/-! ## Reading values -/

namespace Settings

/-- The members of a section; none if the section is missing or null. -/
def section? (settings : Entries Json) (key : String) :
    Except SettingsFault (Option (Entries Json)) :=
  match Entries.get? settings key with
  | none | some .null => .ok none
  | some (.obj members) => .ok (some members)
  | some _ => .error (.notObject key)

/-- The value of an optional setting. -/
def optional (members : Entries Json) (key : String) (usual : Json) : Json :=
  match Entries.get? members key with
  | none | some .null => usual
  | some value => value

/-- The text that a setting must be. -/
def asText (key : String) : Json → Except SettingsFault String
  | .str s => .ok s
  | _ => .error (.notText key)

/-- The truth value that a setting must be. -/
def asBoolean (key : String) : Json → Except SettingsFault Bool
  | .bool b => .ok b
  | _ => .error (.notBoolean key)

/-- The integer that a setting must be. -/
def asInteger (key : String) : Json → Except SettingsFault Int
  | .int i => .ok i
  | _ => .error (.notInteger key)

/-- A number as a double. -/
def asNumber (key : String) : Json → Except SettingsFault Binary64
  | .float x => .ok x
  | .int i =>
    match Binary64.ofInt? i with
    | some x => .ok x
    | none => .error (.tooLarge key)
  | _ => .error (.notNumber key)

end Settings

open Settings

/-! ## Sections -/

namespace LogSettings

/-- Reads the section `log`. -/
def parse (settings : Entries Json) : Except SettingsFault LogSettings := do
  let members := (← section? settings "log").getD []
  let level ← asText "log.level" (optional members "level" (.str "INFO"))
  let toFile ← asBoolean "log.to_file" (optional members "to_file" (.bool false))
  let directory ← asText "log.dir" (optional members "dir" (.str "log"))
  return { level := upper level, toFile, directory }

/-- Checks what the section must satisfy. -/
def check (s : LogSettings) : Except SettingsFault Unit :=
  if !levels.contains s.level then .error .unknownLevel
  else if (stripBlanks s.directory).isEmpty then .error .blankDirectory
  else .ok ()

end LogSettings

namespace ClientSettings

/-- The environment variable that holds the password unless the settings name another. -/
def usualVariable : String := "ELASTIC_PASSWORD"

/-- The password under a name of the environment; an empty name stands for none. -/
def passwordOf (env : Environment) (name : String) : String :=
  if name.isEmpty then "" else stripBlanks ((Entries.get? env name).getD "")

/-- Reads the section `client`. -/
def parse (env : Environment) (settings : Entries Json) : Except SettingsFault ClientSettings := do
  let some members ← section? settings "client" | throw (.missing "client")
  let passwordVariable ←
    asText "client.password_env" (optional members "password_env" (.str usualVariable))
  let some server := Entries.get? members "server_url" | throw (.missing "client.server_url")
  let server ← asText "client.server_url" server
  let timeout ← asNumber "client.timeout" (optional members "timeout" (.int 30))
  let maxAttempts ← asInteger "client.max_attempts" (optional members "max_attempts" (.int 3))
  let username ← asText "client.username" (optional members "username" (.str ""))
  let passwordVariable := stripBlanks passwordVariable
  return {
    serverUrl := stripBlanks server
    timeout
    maxAttempts
    username := stripBlanks username
    passwordVariable
    password := passwordOf env passwordVariable }

/-- Checks what the section must satisfy. -/
def check (s : ClientSettings) : Except SettingsFault Unit :=
  if s.serverUrl.isEmpty then .error .noServer
  else if s.timeout.le (.zero false) then .error .badTimeout
  else if s.maxAttempts < 1 then .error .noAttempts
  else if !s.username.isEmpty && s.passwordVariable.isEmpty then .error .noPasswordVariable
  else .ok ()

end ClientSettings

namespace Settings

/-- Reads and checks settings. -/
def parse (env : Environment) (settings : Json) : Except SettingsFault Settings := do
  let .obj members := settings | throw .noObject
  let log ← LogSettings.parse members
  let client ← ClientSettings.parse env members
  log.check
  client.check
  return { log, client }

/-- The settings of which others need to give only what they change. -/
def usual : Entries Json :=
  [("log", .obj [("level", .str "INFO"), ("to_file", .bool false), ("dir", .str "log")]),
    ("client", .obj
      [("server_url", .str "http://localhost:9200"), ("timeout", .int 30),
        ("max_attempts", .int 3), ("username", .str ""),
        ("password_env", .str ClientSettings.usualVariable)])]

end Settings

end SearchBuilder
