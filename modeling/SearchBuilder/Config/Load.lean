import SearchBuilder.Config.Merge
import SearchBuilder.Config.Settings
import SearchBuilder.Yaml.Reader

/-!
# Loading settings

Settings are written in YAML. A text may be used alone, or be laid over the settings of another
text or over the usual ones, of which it needs to give only what it changes. An empty text gives
nothing.
-/

namespace SearchBuilder

/-- Why settings cannot be loaded. -/
inductive LoadFault where
  | yaml (flaw : Yaml.Flaw)
  /-- The text holds something else than a mapping. -/
  | noMapping
  | settings (fault : SettingsFault)
  deriving DecidableEq, Repr

/-- The words for a text that holds something else than a mapping. -/
def noMappingMessage : String := "Config root must be a mapping/object"

namespace Settings

/-- The mapping that a text holds. What is empty in any way counts as an empty mapping. -/
def read (text : String) : Except LoadFault (Entries Json) := do
  let root ← (Yaml.parse text).mapError .yaml
  if !root.isTruthy then return []
  match root with
  | .obj members => return members
  | _ => throw .noMapping

/-- The settings of a text. -/
def load (env : Environment) (text : String) : Except LoadFault Settings := do
  let members ← read text
  (parse env (.obj members)).mapError .settings

/-- The settings of a text laid over others. -/
def loadOver (env : Environment) (base : Entries Json) (text : String) :
    Except LoadFault Settings := do
  let members ← read text
  (parse env (.obj (mergeSettings base members))).mapError .settings

/-- The settings of a text laid over those of another. -/
def loadLayered (env : Environment) (base text : String) : Except LoadFault Settings := do
  loadOver env (← read base) text

end Settings

end SearchBuilder
