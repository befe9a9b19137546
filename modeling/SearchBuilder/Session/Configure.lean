import SearchBuilder.Config.Connect
import SearchBuilder.Config.Load
import SearchBuilder.Log.Setup
import SearchBuilder.Session

/-!
# Configured sessions

A session is configured by a text of settings, which is laid over the usual ones: logging is set
up, and a client of the server is made and registered.
-/

namespace SearchBuilder

/-- Why a session cannot be configured. -/
inductive ConfigureFault where
  | load (fault : LoadFault)
  | log (fault : LogFault)
  | setup (fault : SetupFault)
  deriving DecidableEq, Repr

/-- A session that has been configured. -/
structure Configured where
  session : Session
  client : HttpClient
  log : LogSetup
  /-- What was logged on the way. -/
  notices : List Notice

namespace Notice

/-- A client is ready for use. -/
def ready (client : HttpClient) : Notice := ⟨.info, s!"Search client ready: {client.baseUrl}"⟩

end Notice

/-- The log setup that settings ask for. The log file is named for the action. -/
def LogSettings.setup (s : LogSettings) (opens : String → Bool) (action : String) :
    Except LogFault LogSetup :=
  LogSetup.make opens (some s.level) (some action) s.toFile s.directory

/-- The action that log files are named for unless another is given. -/
def usualAction : String := "search"

/-- Configures a session and registers its client under a name. `opens` says which log files can be
opened. -/
def Session.configure (s : Session) (name : String) (env : Environment) (opens : String → Bool)
    (text : String) : Except ConfigureFault Configured := do
  let settings ← (Settings.loadOver env Settings.usual text).mapError .load
  let log ← (settings.log.setup opens usualAction).mapError .log
  let client ← (settings.client.connect []).mapError .setup
  let made := (s.addClient name (.http client)).register name
  return {
    session := made.session
    client
    log
    notices := made.notices ++ [.ready client] }

end SearchBuilder
