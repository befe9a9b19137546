import SearchBuilder.Client.Http
import SearchBuilder.Document.Argument

/-!
# Clients

The clients that a session can use: a client of a server, any object that can post, and a bare
client that implements nothing. `Client.call` runs a method of a client by its name.
-/

namespace SearchBuilder

/-- Something that a client passed on to its transport. -/
inductive Transmission where
  | posted (path body : Json)
  | requested (sent : Sent)
  | closed

/-- Why a call on a client fails. -/
inductive ClientFault where
  | call (failure : CallFailure)
  | setup (fault : SetupFault)
  /-- An exception of the client's own. -/
  | raised (error : String)
  /-- The client implements no methods. -/
  | unimplemented
  /-- The client has no such method. -/
  | noMethod
  deriving DecidableEq, Repr

/-- A post as a client is given it. -/
structure Post where
  path : Json
  body : Json
  handlers : Handlers

/-- An object that can post. What it answers, or raises, may depend on all posts that it was ever
given, of which the newest is the last. -/
structure Poster where
  typeName : String
  answer : List Post → Except ClientFault Json
  posts : List Post := []

/-- A search client. -/
inductive Client where
  | http (client : HttpClient)
  | poster (client : Poster)
  | bare

/-- The name of a client's type in messages. -/
def Client.typeName : Client → String
  | http _ => "HttpClient"
  | poster client => client.typeName
  | bare => "BareClient"

/-- What a client answers. -/
inductive ClientAnswer where
  /-- The client itself, for chaining. -/
  | self
  /-- The client itself, when it is entered. -/
  | entered
  | value (j : Json)

/-- What a call on a client does. -/
structure ClientOutcome where
  client : Client
  transmissions : List Transmission := []
  paused : List Binary64 := []
  notices : List Notice := []
  answer : Except ClientFault ClientAnswer

namespace Client

/-- A node for arguments that are never put into one. -/
def noReceiver : Node := { kind := .plain, fragment := .null }

/-- The value of an argument of a client's method. -/
def argument (args : Arguments) (index : Nat) (name : String) : Json :=
  (args.get index name).toJson noReceiver

/-- The outcome of a call on a server. -/
def ofTrace (client : HttpClient) (trace : Trace Json) : ClientOutcome :=
  { client := http { client with replies := trace.replies }
    transmissions := trace.sent.map .requested
    paused := trace.paused
    notices := trace.notices
    answer := (trace.result.map .value).mapError .call }

/-- Runs a method of a client of a server. -/
def callHttp (client : HttpClient) (method : String) (args : Arguments) (handlers : Handlers)
    (platform : Platform) : ClientOutcome :=
  let unchanged (answer : Except ClientFault ClientAnswer) : ClientOutcome :=
    { client := http client, answer }
  let query (verb : String) : ClientOutcome :=
    ofTrace client <| client.call
      { method := verb, path := argument args 0 "path", params := argument args 1 "params" }
      handlers platform
  let submit (verb : String) : ClientOutcome :=
    ofTrace client <| client.call
      { method := verb, path := argument args 0 "path", body := argument args 1 "body" }
      handlers platform
  match method with
  | "get" => query "GET"
  | "head" => query "HEAD"
  | "post" => submit "POST"
  | "put" => submit "PUT"
  | "delete" => submit "DELETE"
  | "close" => { unchanged (.ok (.value .null)) with transmissions := [.closed] }
  | "with" => { unchanged (.ok .entered) with transmissions := [.closed] }
  | "url" =>
    match argument args 0 "path" with
    | .str path => unchanged (.ok (.value (.str (client.url path))))
    | _ => unchanged (.error (.call .pathNotText))
  | "server_url" =>
    match argument args 0 "server_url" with
    | .null => unchanged (.ok (.value (.str client.baseUrl)))
    | address =>
      match baseUrl address (argument args 1 "port") with
      | .ok url => { client := http { client with baseUrl := url }, answer := .ok .self }
      | .error fault => unchanged (.error (.setup (.address fault)))
  | _ => unchanged (.error .noMethod)

/-- A stub that answers every post with one response. -/
def stub (response : Json) : Client :=
  poster {
    typeName := "StubClient"
    answer := fun posts =>
      match posts.getLast? >>= (·.handlers.onSuccess) with
      | some handle => (handle response).mapError .call
      | none => .ok response }

/-- Gives a post to an object. -/
def give (client : Poster) (post : Post) : ClientOutcome :=
  let posts := client.posts ++ [post]
  { client := poster { client with posts }
    transmissions := [.posted post.path post.body]
    answer := (client.answer posts).map .value }

/-- Runs a method of a client by its name. -/
def call (client : Client) (method : String) (args : Arguments) (handlers : Handlers)
    (platform : Platform) : ClientOutcome :=
  match client with
  | http c => callHttp c method args handlers platform
  | poster p =>
    if method = "post" then
      give p { path := argument args 0 "path", body := argument args 1 "body", handlers }
    else { client, answer := .error .noMethod }
  | bare =>
    if ["get", "post", "put", "delete", "head"].contains method then
      { client, answer := .error .unimplemented }
    else { client, answer := .error .noMethod }

end Client

end SearchBuilder
