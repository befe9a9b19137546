import SearchBuilder.Client.Platform
import SearchBuilder.Client.Url
import SearchBuilder.Document.Outcome

/-!
# The HTTP client

A client sends JSON to a server and reads JSON from it. Attempts that fail for a transient reason
are repeated after a pause, up to a number of attempts. The outcome of the last attempt decides:
an answer is decoded and handed to the caller, an exception is handed to the caller's error handler
or else logged. A call whose parameters or body cannot be written sends nothing and hands nothing
over.

The transport is a list of replies, consumed one per attempt. A call answers its `Trace`: what was
sent, how long the client paused, what it logged and how the call ended.
-/

namespace SearchBuilder

/-- How often a call may be attempted. -/
inductive Attempts where
  | count (n : Nat)
  /-- A limit that is no whole number, with which no attempt can be made. -/
  | unusable
  deriving DecidableEq, Repr

/-- A client of one server. -/
structure HttpClient where
  baseUrl : String
  timeout : Json
  attempts : Attempts
  /-- The user name and password, or null. -/
  auth : Json
  /-- What the transport is going to reply. -/
  replies : List Reply

/-- Why a call on a client fails, other than by an exception that is reported. -/
inductive CallFailure where
  | escaped (error : TransportError)
  /-- The path is no text. -/
  | pathNotText
  /-- The query parameters are no object. -/
  | paramsNotObject
  | unusableAttempts
  /-- A parameter or the body cannot be written. -/
  | unwritten (fault : TextFault)
  /-- A pause is too large to be computed. -/
  | pauseOverflow
  /-- The caller's own handler failed. -/
  | handler
  deriving DecidableEq, Repr

/-- Why a client cannot be made. -/
inductive SetupFault where
  | address (fault : AddressFault)
  /-- The limit of attempts cannot be compared with one. -/
  | badAttempts
  deriving DecidableEq, Repr

/-- The handlers that a caller gives to a call. -/
structure Handlers where
  onSuccess : Option (Json → Except CallFailure Json) := none
  onError : Option (TransportError → Except CallFailure Json) := none

/-- A call on a client. -/
structure HttpCall where
  method : String
  path : Json
  params : Json := .null
  body : Json := .null

/-- What a handler of the caller was given. -/
inductive Handed where
  | value (j : Json)
  | error (e : TransportError)

/-- What happens during a call, and how it ends. -/
structure Trace (α : Type) where
  sent : List Sent
  paused : List Binary64
  notices : List Notice
  replies : List Reply
  /-- What was handed to the caller's handlers, in order. -/
  handed : List Handed := []
  result : Except CallFailure α

namespace Notice

/-- An attempt begins. -/
def attempting (method : String) (path : List Char) (attempt limit : Nat) : Notice :=
  ⟨.debug, s!"{method} {String.ofList path} attempt={attempt}/{limit}"⟩

/-- An attempt failed and another one will follow a pause. -/
def retrying (method : String) (attempt limit : Nat) (pause : Binary64) (error : TransportError) :
    Notice :=
  let seconds := String.ofList (pause.fixedText 2)
  ⟨.warning, s!"{method} retry attempt={attempt}/{limit} delay={seconds}s error={error.message}"⟩

/-- A call failed and nobody handles its error. -/
def callFailed (method path : String) (error : TransportError) : Notice :=
  ⟨.error, s!"{method} {path} failed: {error.message}"⟩

end Notice

namespace HttpClient

/-! ## Requests -/

/-- The server of clients that are given none. -/
def defaultServer : String := "http://localhost:9200"

/-- The seconds after which an attempt is given up. -/
def defaultTimeout : Json := .float (.ofNat 30)

/-- How often a call is attempted unless another limit is given. -/
def defaultAttempts : Nat := 3

/-- The headers of every request; those with a body name its type. -/
def headers (data : Json) : Json :=
  let shared : Entries Json :=
    [("User-Agent", .str "elastic-dsl/0.1"), ("Accept", .str "application/json")]
  .obj (if data.isNull then shared else shared ++ [("Content-Type", .str "application/json")])

/-- The URL of a path on the client's server. -/
def url (client : HttpClient) (path : String) : String :=
  if path.toList.head? = some '/' then client.baseUrl ++ path else client.baseUrl ++ "/" ++ path

/-- A query parameter: truth values in small letters, all else as messages show it. -/
def paramText : Json → String
  | .bool b => if b then "true" else "false"
  | j => j.plainText

/-- The query parameters as texts; null if there are none. -/
def paramTexts (limit : DigitLimit) (params : Json) : Except CallFailure Json :=
  if !params.isTruthy then .ok .null
  else
    match params with
    | .obj members =>
      match Json.membersFault? limit none members with
      | some fault => .error (.unwritten fault)
      | none => .ok (.obj (members.map fun (key, value) => (key, .str (paramText value))))
    | _ => .error .paramsNotObject

/-- The body as it is sent: a text as it is, any other value as JSON. -/
def dataText (limit : DigitLimit) (body : Json) : Except CallFailure Json :=
  match body with
  | .null => .ok .null
  | .str s => .ok (.str s)
  | j => (((Writing.spaced j).write limit).map .str).mapError .unwritten

/-- The request of a call. -/
def request (client : HttpClient) (limit : DigitLimit) (call : HttpCall) :
    Except CallFailure Sent := do
  let params ← paramTexts limit call.params
  let data ← dataText limit call.body
  match call.path with
  | .str path =>
    return { method := call.method, url := client.url path, params, data, headers := headers data,
             timeout := client.timeout, auth := client.auth }
  | _ => throw .pathNotText

/-! ## Attempts -/

/-- The end of a series of attempts: an answer, or the exception of the last attempt. -/
abbrev Ending := Except TransportError Reply

/-- Makes the attempts of a call, from the given one on, until one is not transient or the limit is
reached. The pause after an attempt is given by its number. -/
def attempt (request : Sent) (path : List Char) (limit : Nat) (pause? : Nat → Option Binary64) :
    Nat → List Reply → Trace Ending
  | k, replies =>
    let notice := Notice.attempting request.method path k limit
    let stop (replies : List Reply) (result : Except CallFailure Ending) : Trace Ending :=
      { sent := [request], paused := [], notices := [notice], replies, result }
    match replies with
    | [] => stop [] (.ok (.error ⟨.runtime, "no reply"⟩))
    | reply :: rest =>
      match reply.error? with
      | none => stop rest (.ok (.ok reply))
      | some error =>
        if !error.kind.isTransient || limit ≤ k then stop rest (.ok (.error error))
        else
          match pause? k with
          | none => stop rest (.error .pauseOverflow)
          | some pause =>
            let later := attempt request path limit pause? (k + 1) rest
            { later with
              sent := request :: later.sent
              paused := pause :: later.paused
              notices := notice :: .retrying request.method k limit pause error :: later.notices }

/-- Sends a request as often as needed. -/
def send (client : HttpClient) (request : Sent) (platform : Platform) : Trace Ending :=
  let idle (result : Except CallFailure Ending) : Trace Ending :=
    { sent := [], paused := [], notices := [], replies := client.replies, result }
  match client.attempts with
  | .unusable => idle (.error .unusableAttempts)
  | .count limit =>
    match Url.split request.url.toList with
    | .error flaw => idle (.ok (.error ⟨.value, flaw.message⟩))
    | .ok parts => attempt request parts.path limit platform.pause? 1 client.replies

/-! ## Calls -/

/-- The value of an answer: its headers if only those were asked for, null for an empty body, and
else what is read from the body. -/
def decode (platform : Platform) (method : String) : Reply → Except TransportError Json
  | .answer _ body headers =>
    if method = "HEAD" then .ok headers
    else if body.isEmpty then .ok .null
    else platform.read body
  | .raised error => .error error

/-- How the end of a call was brought to the caller. -/
structure Delivery where
  result : Except CallFailure Json
  handed : List Handed := []
  notices : List Notice := []

/-- Hands the end of a call to the caller's handlers. -/
def route (call : HttpCall) (handlers : Handlers) (ending : Except TransportError Json) :
    Delivery :=
  match ending with
  | .ok value =>
    match handlers.onSuccess with
    | some handle => { result := handle value, handed := [.value value] }
    | none => { result := .ok value }
  | .error error =>
    if !error.kind.isReported then { result := .error (.escaped error) }
    else
      match handlers.onError with
      | some handle => { result := handle error, handed := [.error error] }
      | none =>
        { result := .ok .null
          notices := [.callFailed call.method call.path.plainText error] }

/-- Makes a call. -/
def call (client : HttpClient) (call : HttpCall) (handlers : Handlers) (platform : Platform) :
    Trace Json :=
  match client.request platform.digits call with
  | .error failure =>
    { sent := [], paused := [], notices := [], replies := client.replies, result := .error failure }
  | .ok request =>
    let trace := client.send request platform
    match trace.result with
    | .error failure => { trace with result := .error failure }
    | .ok ending =>
      let delivery := route call handlers (ending >>= decode platform call.method)
      { trace with
        result := delivery.result
        handed := delivery.handed
        notices := trace.notices ++ delivery.notices }

/-! ## Construction -/

/-- The limit of attempts, which is at least one. -/
def attemptsOf (limit : Json) : Except SetupFault Attempts :=
  match limit with
  | .int i => .ok (.count (max 1 i.toNat))
  | .bool _ => .ok (.count 1)
  | .float x => .ok (if (Binary64.ofNat 1).lt x then .unusable else .count 1)
  | _ => .error .badAttempts

/-- A client for a server. -/
def create (address port timeout attempts auth : Json) (replies : List Reply) :
    Except SetupFault HttpClient := do
  let baseUrl ← (SearchBuilder.baseUrl address port).mapError .address
  let attempts ← attemptsOf attempts
  return { baseUrl, timeout, attempts, auth, replies }

end HttpClient

end SearchBuilder
