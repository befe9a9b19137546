import SearchBuilder.Session.Client
import SearchBuilder.Session.Operand

/-!
# Sessions

A session runs steps. Steps build objects under names, call their methods, bind
clients and register one of them. A search goes to the client that it names, or else to the
registered one. A step that fails leaves what it changed before it failed.

Clients keep their identity when their name is bound anew, so the registered client stays what it
was. All steps of a session run on one platform, from which clients draw the jitter of their pauses
one after the other.
-/

namespace SearchBuilder

/-- What a name is bound to: an object, or a client by its place among the session's clients. -/
inductive Binding where
  | object (o : Object)
  | client (id : Nat)

/-- The state of a program. -/
structure Session where
  bindings : Entries Binding := []
  /-- The clients made so far, with the names under which they were made. -/
  clients : List (String × Client) := []
  /-- The client for searches that name none. -/
  registered : Option Nat := none
  platform : Platform := {}
  /-- How often clients have drawn from the jitter of the platform. -/
  drawn : Nat := 0

/-- Why a step fails. -/
inductive Failure where
  | unbound (name : String)
  | fault (fault : Fault)
  | client (fault : ClientFault)
  /-- No client is named and none is registered. -/
  | noClient
  /-- A search was given a client that is none. -/
  | notAClient
  deriving DecidableEq, Repr

/-- The words for a missing client. -/
def noClientMessage : String :=
  "No search client registered; call register_client() or pass client="

/-- What a step answers. -/
inductive Response where
  | nothing
  /-- The object or client that the step was about. -/
  | self
  | value (j : Json)
  /-- The part at a path of the object that the step was about, with the value that it has now. -/
  | part (path : Path) (j : Json)
  /-- The base URL and credentials of a new client. -/
  | connected (baseUrl : String) (auth : Json)
  /-- The client that was passed in. -/
  | same
  /-- The client that is registered, or was. -/
  | client (id : Option Nat)

/-- A step of a program. -/
inductive Step where
  | build (kind : Kind) (name : String) (operands : Operands)
  | call (name method : String) (operands : Operands) (handlers : Handlers)
  | bindStub (name : String) (response : Json)
  | bindPoster (name : String) (client : Poster)
  | bindBare (name : String)
  | bindHttp (name : String) (operands : Operands) (replies : List Reply)
  | register (name : String)
  | current
  | clear

/-- What a step did. -/
structure StepResult where
  session : Session
  response : Except Failure Response
  /-- The object that the step was about, and its name. -/
  subject : Option (String × Object) := none
  /-- What the step did to the parts of its subject. -/
  shifts : List Shift := []
  transmissions : List Transmission := []
  paused : List Binary64 := []
  notices : List Notice := []

namespace Notice

/-- A search is about to be sent. -/
def searching (path : String) : Notice := ⟨.debug, s!"Search request path={path}"⟩

/-- A client was registered. -/
def registered (client : Client) : Notice :=
  ⟨.debug, s!"Registered search client {client.typeName}"⟩

end Notice

namespace OperandFault

/-- The failure of a step with faulty operands. -/
def toFailure : OperandFault → Failure
  | unbound name => .unbound name
  | fault f => .fault f

end OperandFault

/-- The answer of an object as the answer of a step. -/
def Answer.toResponse : Answer → Response
  | .self => .self
  | .value j => .value j
  | .part path j => .part path j
  | .text w => .value (.str w.text)

namespace Session

/-! ## Names -/

/-- The argument that a name stands for in a call on `receiver`. A client is no value. -/
def look (s : Session) (receiver : Option String) (name : String) : Option Argument :=
  (Entries.get? s.bindings name).map fun
    | .object o => if receiver = some name then .receiver else .node o.toChild
    | .client _ => .other

/-- What operands are evaluated in. -/
def scope (s : Session) : Scope := { look := s.look, digits := s.platform.digits }

/-- The client that a name is bound to. -/
def clientId? (s : Session) (name : String) : Option Nat :=
  match Entries.get? s.bindings name with
  | some (.client id) => some id
  | _ => none

/-- The session with a name bound. -/
def bind (s : Session) (name : String) (b : Binding) : Session :=
  { s with bindings := Entries.set s.bindings name b }

/-- A new client under a name. -/
def addClient (s : Session) (name : String) (client : Client) : Session :=
  { s with clients := s.clients ++ [(name, client)] }.bind name (.client s.clients.length)

/-- The client of an identity after a call. -/
def updateClient (s : Session) (id : Nat) (client : Client) : Session :=
  { s with clients := s.clients.modify id fun (name, _) => (name, client) }

/-! ## Calls -/

/-- Calls a method of a client. -/
def callClient (s : Session) (id : Nat) (client : Client) (method : String) (args : Arguments)
    (handlers : Handlers) : StepResult :=
  let outcome := client.call method args handlers (s.platform.skip s.drawn)
  { session :=
      { s.updateClient id outcome.client with drawn := s.drawn + outcome.paused.length }
    response := (outcome.answer.map fun
      | .self => .self
      | .entered => .same
      | .value j => .value j).mapError .client
    transmissions := outcome.transmissions
    paused := outcome.paused
    notices := outcome.notices }

/-- The client to which a search goes: the one that it names, or else the registered one. -/
def recipient (s : Session) (named : Option Operand) : Except Failure Nat :=
  match named with
  | none | some (.plain .null) =>
    match s.registered with
    | some id => .ok id
    | none => .error .noClient
  | some (.ref name) =>
    match s.clientId? name with
    | some id => .ok id
    | none => .error .notAClient
  | some _ => .error .notAClient

/-- Posts the texts of a search to a client. -/
def post (s : Session) (id : Nat) (path body : String) (handlers : Handlers) : StepResult :=
  match s.clients[id]? with
  | some (_, client) =>
    let args : Arguments := { positional := [.plain (.str path), .plain (.str body)] }
    s.callClient id client "post" args handlers
  | none => { session := s, response := .error .noClient }

/-- Sends a search to a client. The path is written before anything else is asked of the client, and
the body after it was found to be one. -/
def search (s : Session) (r : Request) (named : Option Operand) (handlers : Handlers) :
    StepResult :=
  let failed (failure : Failure) (notices : List Notice) : StepResult :=
    { session := s, response := .error failure, notices }
  match s.recipient named, r.pathWriting.write s.platform.digits with
  | .error .noClient, _ => failed .noClient []
  | _, .error fault => failed (.fault (.unwritten fault)) []
  | .error failure, .ok path => failed failure [.searching path]
  | .ok id, .ok path =>
    match r.bodyWriting.write s.platform.digits with
    | .error fault => failed (.fault (.unwritten fault)) [.searching path]
    | .ok body =>
      let result := s.post id path body handlers
      { result with notices := .searching path :: result.notices }

/-- The client operand of a search. -/
def clientOperand (operands : Operands) : Option Operand := Entries.get? operands.named "client"

/-- Calls a method of the object under a name. -/
def callObject (s : Session) (name : String) (o : Object) (method : String) (operands : Operands) :
    StepResult :=
  match Operand.evalAll s.scope (some name) operands with
  | (.error fault, notices) =>
    { session := s, response := .error fault.toFailure, subject := some (name, o), notices }
  | (.ok args, notices) =>
    let outcome := (o.call method args).written s.platform.digits
    { session := s.bind name (.object outcome.state)
      response := (outcome.answer.map Answer.toResponse).mapError .fault
      subject := some (name, outcome.state)
      shifts := outcome.shifts
      notices := notices ++ outcome.notices }

/-- Calls a method of whatever a name is bound to. -/
def call (s : Session) (name method : String) (operands : Operands) (handlers : Handlers) :
    StepResult :=
  match Entries.get? s.bindings name with
  | none => { session := s, response := .error (.unbound name) }
  | some (.object (.request r)) =>
    if method = "do_search" then
      { s.search r (clientOperand operands) handlers with subject := some (name, .request r) }
    else s.callObject name (.request r) method operands
  | some (.object o) => s.callObject name o method operands
  | some (.client id) =>
    match s.clients[id]?, Operand.evalAll s.scope none operands with
    | none, _ => { session := s, response := .error (.unbound name) }
    | some _, (.error fault, notices) =>
      { session := s, response := .error fault.toFailure, notices }
    | some (_, client), (.ok args, notices) =>
      let result := s.callClient id client method args handlers
      { result with notices := notices ++ result.notices }

/-! ## Clients -/

/-- Makes a client of a server under a name. -/
def bindHttp (s : Session) (name : String) (args : Arguments) (replies : List Reply) : StepResult :=
  let value (index : Nat) (key : String) (usual : Json) : Json :=
    ((args.get? index key).map (·.toJson Client.noReceiver)).getD usual
  let option (key : String) (usual : Json) : Json :=
    ((Entries.get? args.named key).map (·.toJson Client.noReceiver)).getD usual
  let made := HttpClient.create
    (value 0 "server_url" (.str HttpClient.defaultServer)) (value 1 "port" .null)
    (option "timeout" HttpClient.defaultTimeout)
    (option "max_attempts" (.int HttpClient.defaultAttempts))
    (option "auth" .null) replies
  match made with
  | .ok client =>
    { session := s.addClient name (.http client)
      response := .ok (.connected client.baseUrl client.auth) }
  | .error fault => { session := s, response := .error (.client (.setup fault)) }

/-- Makes the client under a name the one for searches that name none. -/
def register (s : Session) (name : String) : StepResult :=
  match s.clientId? name >>= fun id => s.clients[id]?.map fun entry => (id, entry.2) with
  | some (id, client) =>
    { session := { s with registered := some id }
      response := .ok .same
      notices := [.registered client] }
  | none => { session := s, response := .error (.unbound name) }

/-! ## Steps -/

/-- Runs one step. -/
def step (s : Session) : Step → StepResult
  | .build kind name operands =>
    match Operand.evalAll s.scope none operands with
    | (.error fault, notices) => { session := s, response := .error fault.toFailure, notices }
    | (.ok args, notices) =>
      let outcome := Object.build kind args
      let notices := notices ++ outcome.notices
      match outcome.answer with
      | .error fault => { session := s, response := .error (.fault fault), notices }
      | .ok _ =>
        { session := s.bind name (.object outcome.state)
          response := .ok .nothing
          subject := some (name, outcome.state)
          shifts := [.taken []]
          notices }
  | .call name method operands handlers => s.call name method operands handlers
  | .bindStub name response =>
    { session := s.addClient name (.stub response), response := .ok .nothing }
  | .bindBare name => { session := s.addClient name .bare, response := .ok .nothing }
  | .bindPoster name client =>
    { session := s.addClient name (.poster client), response := .ok .nothing }
  | .bindHttp name operands replies =>
    match Operand.evalAll s.scope none operands with
    | (.error fault, notices) => { session := s, response := .error fault.toFailure, notices }
    | (.ok args, _) => s.bindHttp name args replies
  | .register name => s.register name
  | .current => { session := s, response := .ok (.client s.registered) }
  | .clear => { session := { s with registered := none }, response := .ok (.client s.registered) }

end Session

end SearchBuilder
