import SearchBuilder.Json.Basic

/-!
# Transport

What a client sends and what comes back: an answer of the server, or an exception of a kind. The
kinds form a hierarchy, of which a client looks at two questions: whether an exception is
transient, so that another attempt may help, and whether it is reported to the caller.
-/

namespace SearchBuilder

/-- A kind of exception. -/
inductive ExceptionKind where
  | request
  | http
  | timeout
  | readTimeout
  | connectTimeout
  | connection
  | ssl
  | proxy
  | tooManyRedirects
  | chunkedEncoding
  | contentDecoding
  | invalidUrl
  /-- The body of an answer is no JSON. -/
  | undecodable
  /-- A value that makes no sense, such as a URL that cannot be split. -/
  | value
  /-- A failure of the transport itself. -/
  | runtime
  deriving DecidableEq, Repr

namespace ExceptionKind

/-- All kinds. -/
def all : List ExceptionKind :=
  [.request, .http, .timeout, .readTimeout, .connectTimeout, .connection, .ssl, .proxy,
    .tooManyRedirects, .chunkedEncoding, .contentDecoding, .invalidUrl, .undecodable, .value,
    .runtime]

/-- The name of a kind. -/
def name : ExceptionKind → String
  | request => "RequestException"
  | http => "HTTPError"
  | timeout => "Timeout"
  | readTimeout => "ReadTimeout"
  | connectTimeout => "ConnectTimeout"
  | connection => "ConnectionError"
  | ssl => "SSLError"
  | proxy => "ProxyError"
  | tooManyRedirects => "TooManyRedirects"
  | chunkedEncoding => "ChunkedEncodingError"
  | contentDecoding => "ContentDecodingError"
  | invalidUrl => "InvalidURL"
  | undecodable => "JSONDecodeError"
  | value => "ValueError"
  | runtime => "RuntimeError"

/-- The kind of a name. -/
def ofName? (name : String) : Option ExceptionKind := all.find? (·.name = name)

/-- Timeouts, failed connections and retryable answers may pass. -/
def isTransient : ExceptionKind → Bool
  | http | timeout | readTimeout | connectTimeout | connection | ssl | proxy => true
  | _ => false

/-- All exceptions but those of the transport itself are reported to the caller. -/
def isReported : ExceptionKind → Bool
  | runtime => false
  | _ => true

/-- The kinds that are about a value. -/
def isValueError : ExceptionKind → Bool
  | value | invalidUrl | undecodable => true
  | _ => false

end ExceptionKind

/-- An exception and what it says. -/
structure TransportError where
  kind : ExceptionKind
  message : String
  deriving DecidableEq, Repr

/-- What comes back for one attempt. -/
inductive Reply where
  | answer (status : Int) (body : String) (headers : Json)
  | raised (error : TransportError)

/-- The statuses after which another attempt may help. -/
def retryableStatuses : List Int := [429, 500, 502, 503, 504]

namespace Reply

/-- The exception that a reply amounts to, if any: one raised, or a retryable status. -/
def error? : Reply → Option TransportError
  | answer status _ _ =>
    if retryableStatuses.contains status then some ⟨.http, s!"HTTP {status}"⟩ else none
  | raised error => some error

/-- Whether another attempt may help. -/
def isTransient (r : Reply) : Bool := r.error?.any (·.kind.isTransient)

end Reply

/-- One attempt as the transport sees it. -/
structure Sent where
  method : String
  url : String
  /-- The query parameters, null if there are none. -/
  params : Json
  /-- The text of the body, null if there is none. -/
  data : Json
  headers : Json
  timeout : Json
  auth : Json

end SearchBuilder
