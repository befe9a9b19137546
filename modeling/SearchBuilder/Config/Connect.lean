import SearchBuilder.Client.Http
import SearchBuilder.Config.Settings

/-!
# Clients from settings

A client of the server that settings name. It identifies itself with a user name and a password
only if there is a user name.
-/

namespace SearchBuilder

/-- The credentials of a user, null if there is no user name. -/
def credentials (username password : Json) : Json :=
  if username.isTruthy then .arr [username, password] else .null

/-- The credentials that the settings give. -/
def ClientSettings.auth (s : ClientSettings) : Json :=
  credentials (.str s.username) (.str s.password)

/-- A client with the settings, and what its transport is going to reply. -/
def ClientSettings.connect (s : ClientSettings) (replies : List Reply) :
    Except SetupFault HttpClient :=
  HttpClient.create (.str s.serverUrl) .null (.float s.timeout) (.int s.maxAttempts) s.auth replies

end SearchBuilder
