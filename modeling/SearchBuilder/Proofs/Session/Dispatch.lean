import SearchBuilder.Proofs.Session.Wire

/-!
# The clients of searches

A program registers clients and clears the registration. The registered client is always that of
the last such event (`Session.Tracks.after`), whatever else is built, called and searched in
between. A search is one post to the client that it names or else to the registered one, and changes
nothing but that client (`Session.search_dispatched`). A search whose path or body cannot be written
posts nothing.

Clients are any objects that can post: what a `Poster` answers or raises may depend on all that it
was ever given.
-/

namespace SearchBuilder

/-! ## Posts -/

/-- What a post to a client does. -/
structure Posting where
  client : Client
  transmissions : List Transmission
  paused : List Binary64 := []
  answer : Except ClientFault Json

namespace Client

/-- Posts a text. Servers are sent it with every attempt, an object answers it in its own way, and a
bare client cannot post. -/
def post (client : Client) (path body : String) (handlers : Handlers) (platform : Platform) :
    Posting :=
  match client with
  | http c =>
    let trace := c.call { method := "POST", path := .str path, body := .str body } handlers platform
    { client := http { c with replies := trace.replies }
      transmissions := trace.sent.map .requested
      paused := trace.paused
      answer := trace.result.mapError .call }
  | poster p =>
    let posts := p.posts ++ [{ path := .str path, body := .str body, handlers }]
    { client := poster { p with posts }
      transmissions := [.posted (.str path) (.str body)]
      answer := p.answer posts }
  | bare => { client := bare, transmissions := [], answer := .error .unimplemented }

theorem call_post (client : Client) (path body : String) (handlers : Handlers)
    (platform : Platform) :
    let outcome := client.call "post" { positional := [.plain (.str path), .plain (.str body)] }
      handlers platform
    let posting := client.post path body handlers platform
    outcome.client = posting.client ∧ outcome.transmissions = posting.transmissions ∧
      outcome.paused = posting.paused ∧ outcome.answer = posting.answer.map .value := by
  have hswap (x : Except CallFailure Json) :
      (x.map ClientAnswer.value).mapError ClientFault.call = (x.mapError .call).map .value := by
    cases x <;> rfl
  cases client with
  | http c => exact ⟨rfl, rfl, rfl, hswap _⟩
  | poster p => exact ⟨rfl, rfl, rfl, rfl⟩
  | bare => exact ⟨rfl, rfl, rfl, rfl⟩

end Client

namespace Session

/-- A search is one post of a request to one client, with the path and the text that the request has
at that moment. Nothing but the client is changed, and the draws for its pauses are made. -/
def Posts (s : Session) (r : Request) (handlers : Handlers) (id : Nat) (result : StepResult) :
    Prop :=
  ∃ maker client, s.clients[id]? = some (maker, client) ∧
    let posting := client.post r.path r.body.fragment.spaced handlers (s.platform.skip s.drawn)
    result.transmissions = posting.transmissions ∧ result.paused = posting.paused ∧
      result.response = (posting.answer.map .value).mapError .client ∧
      result.session =
        { s with
          clients := s.clients.set id (maker, posting.client)
          drawn := s.drawn + posting.paused.length }

/-- A search posts a request to a client, unless its path or its body cannot be written. Then it
fails with what keeps the first of them from being written, and nothing else happens. -/
def Dispatches (s : Session) (r : Request) (handlers : Handlers) (id : Nat)
    (result : StepResult) : Prop :=
  match r.fault? s.platform.digits with
  | none => s.Posts r handlers id result
  | some cause => result.response = .error (.fault (.unwritten cause)) ∧
      result.transmissions = [] ∧ result.paused = [] ∧ result.session = s

variable {s : Session} {r : Request} {name : String} {id : Nat}

/-- A search of a request that can be written is a post. -/
theorem step_search_posts (hr : Entries.get? s.bindings name = some (.object (.request r)))
    {operands : Operands} (hid : s.recipient? (clientOperand operands) = some id)
    (hclient : id < s.clients.length) (hfault : r.fault? s.platform.digits = none)
    (handlers : Handlers) :
    s.Posts r handlers id (s.step (.call name "do_search" operands handlers)) := by
  obtain ⟨⟨maker, client⟩, hentry⟩ : ∃ entry, s.clients[id]? = some entry :=
    ⟨s.clients[id], List.getElem?_eq_getElem hclient⟩
  obtain ⟨hposted, htransmissions, hpaused, hanswer⟩ :=
    client.call_post r.path r.body.fragment.spaced handlers (s.platform.skip s.drawn)
  rw [step_search hr, search_posts hid hentry hfault handlers]
  refine ⟨maker, client, hentry, htransmissions, hpaused, ?_, ?_⟩
  · change (Except.map _ (Client.call _ _ _ _ _).answer).mapError _ = _
    rw [hanswer]
    cases (client.post r.path r.body.fragment.spaced handlers (s.platform.skip s.drawn)).answer <;>
      rfl
  · simp only [callClient, updateClient, hposted, hpaused]
    rw [List.modify_eq_set_getElem?, hentry]
    rfl

/-- A search of a request that cannot be written fails before anything is posted. -/
theorem search_unwritten {named : Option Operand} (hid : s.recipient? named = some id)
    {cause : TextFault} (hfault : r.fault? s.platform.digits = some cause) (handlers : Handlers) :
    let result := s.search r named handlers
    result.response = .error (.fault (.unwritten cause)) ∧ result.transmissions = [] ∧
      result.paused = [] ∧ result.session = s := by
  have hrecipient := recipient_of_recipient? hid
  rcases Option.or_eq_some_iff.1 hfault with hpath | ⟨hpath, hbody⟩
  · have hpath : r.pathWriting.write s.platform.digits = .error cause :=
      Writing.write_eq_error.2 hpath
    simp only [search, hrecipient, hpath, and_self]
  · have hpath : r.pathWriting.write s.platform.digits = .ok r.path :=
      Writing.write_eq_ok.2 ⟨hpath, rfl⟩
    have hbody : r.bodyWriting.write s.platform.digits = .error cause :=
      Writing.write_eq_error.2 ((Writing.fault?_spaced _).trans hbody)
    simp only [search, hrecipient, hpath, hbody, and_self]

/-- A search that has a client posts to it, or cannot be written. -/
theorem step_dispatches (hr : Entries.get? s.bindings name = some (.object (.request r)))
    {operands : Operands} (hid : s.recipient? (clientOperand operands) = some id)
    (hclient : id < s.clients.length) (handlers : Handlers) :
    s.Dispatches r handlers id (s.step (.call name "do_search" operands handlers)) := by
  unfold Dispatches
  cases hfault : r.fault? s.platform.digits with
  | none => exact step_search_posts hr hid hclient hfault handlers
  | some cause =>
    rw [step_search hr]
    exact search_unwritten hid hfault handlers

/-- A search without a client fails, whatever the request holds. -/
theorem search_unregistered {named : Option Operand}
    (hnamed : named = none ∨ named = some (.plain .null)) (hs : s.registered = none)
    (handlers : Handlers) :
    s.search r named handlers = { session := s, response := .error .noClient } := by
  rcases hnamed with rfl | rfl <;> simp only [search, recipient, hs]

/-- What a post to an object is seen to do. -/
theorem Posts.poster {handlers : Handlers} {result : StepResult} (h : s.Posts r handlers id result)
    {maker : String} {p : Poster} (hp : s.clients[id]? = some (maker, .poster p)) :
    let post : Post := ⟨.str r.path, .str r.body.fragment.spaced, handlers⟩
    result.transmissions = [.posted post.path post.body] ∧
      result.response = ((p.answer (p.posts ++ [post])).map .value).mapError .client := by
  obtain ⟨_, _, hclient, htransmissions, -, hresponse, -⟩ := h
  rw [hp] at hclient
  cases hclient
  exact ⟨htransmissions, hresponse⟩

/-! ## Registrations -/

/-- What a step makes of the registration: a client, none, or nothing new. -/
def registration? (s : Session) : Step → Option (Option Nat)
  | .register name => (s.clientId? name).map some
  | .clear => some none
  | _ => none

/-- The registrations of a program, none where it clears them. -/
def registrations (s : Session) : List Step → List (Option Nat)
  | [] => []
  | first :: rest =>
    (s.registration? first).toList ++ (s.step first).session.registrations rest

/-- All clients that a session knows are there, and the last registration holds. -/
structure Tracks (s : Session) (events : List (Option Nat)) : Prop where
  bound : ∀ name id, s.clientId? name = some id → id < s.clients.length
  known : ∀ id, s.registered = some id → id < s.clients.length
  registered : s.registered = events.getLast?.join

/-- A name stands for a client if one is bound to it. -/
theorem clientId?_eq_some :
    s.clientId? name = some id ↔ Entries.get? s.bindings name = some (.client id) := by
  unfold clientId?
  split
  · next found hfound => simp [hfound]
  · next hother => exact ⟨nofun, fun h => absurd h (hother id)⟩

/-- A session has the clients of another, under no more names. -/
structure SameClients (s s' : Session) : Prop where
  length : s'.clients.length = s.clients.length
  registered : s'.registered = s.registered
  bound : ∀ name id, s'.clientId? name = some id → s.clientId? name = some id

namespace SameClients

theorem refl (s : Session) : s.SameClients s := ⟨rfl, rfl, fun _ _ h => h⟩

theorem bindObject (s : Session) (name : String) (o : Object) :
    s.SameClients (s.bind name (.object o)) where
  length := rfl
  registered := rfl
  bound := by
    intro other id h
    rw [clientId?_eq_some, Session.bind, Entries.get?_set] at h
    by_cases hname : name = other
    · rw [if_pos hname] at h
      cases h
    · rw [if_neg hname] at h
      exact clientId?_eq_some.2 h

theorem callClient (s : Session) (id : Nat) (client : Client) (method : String) (args : Arguments)
    (handlers : Handlers) :
    s.SameClients (s.callClient id client method args handlers).session where
  length := List.length_modify ..
  registered := rfl
  bound := fun _ _ h => h

theorem search (s : Session) (r : Request) (named : Option Operand) (handlers : Handlers) :
    s.SameClients (s.search r named handlers).session := by
  unfold Session.search Session.post
  dsimp only
  (repeat' split) <;>
    first
    | exact refl s
    | exact callClient s _ _ _ _ _

theorem callObject (s : Session) (name : String) (o : Object) (method : String)
    (operands : Operands) : s.SameClients (s.callObject name o method operands).session := by
  unfold Session.callObject
  split
  · exact refl s
  · exact bindObject s name _

/-- No call makes, renames or registers a client. -/
theorem call (s : Session) (name method : String) (operands : Operands) (handlers : Handlers) :
    s.SameClients (s.call name method operands handlers).session := by
  unfold Session.call
  split
  · exact refl s
  · split
    · exact search s _ _ handlers
    · exact callObject s name _ method operands
  · exact callObject s name _ method operands
  · split
    · exact refl s
    · exact refl s
    · exact callClient s _ _ _ _ _

end SameClients

namespace Tracks

variable {events : List (Option Nat)}

theorem start (platform : Platform) : ({ platform } : Session).Tracks [] where
  bound := nofun
  known := nofun
  registered := rfl

theorem same {s' : Session} (h : s.Tracks events) (hs : s.SameClients s') : s'.Tracks events where
  bound := by
    intro name id hid
    rw [hs.length]
    exact h.bound name id (hs.bound name id hid)
  known := by
    intro id hid
    rw [hs.length]
    exact h.known id (hs.registered ▸ hid)
  registered := hs.registered.trans h.registered

theorem addClient (h : s.Tracks events) (name : String) (client : Client) :
    (s.addClient name client).Tracks events := by
  have hlength : (s.addClient name client).clients.length = s.clients.length + 1 :=
    List.length_append
  refine ⟨?_, ?_, h.registered⟩
  · intro other id hid
    rw [clientId?_eq_some, Session.addClient, Session.bind, Entries.get?_set] at hid
    rw [hlength]
    by_cases hname : name = other
    · rw [if_pos hname] at hid
      cases hid
      omega
    · rw [if_neg hname] at hid
      have hbound := h.bound other id (clientId?_eq_some.2 hid)
      omega
  · intro id hid
    have hknown := h.known id hid
    omega

/-- Registering a client is what the events say of it. -/
theorem register (h : s.Tracks events) (name : String) :
    (s.register name).session.Tracks (events ++ (s.registration? (.register name)).toList) := by
  change Tracks _ (events ++ ((s.clientId? name).map some).toList)
  unfold Session.register
  cases hid : s.clientId? name with
  | none =>
    rw [Option.map_none, Option.toList_none, List.append_nil]
    exact h
  | some id =>
    have hclient := h.bound name id hid
    simp only [Option.bind_eq_bind, Option.bind_some, List.getElem?_eq_getElem hclient,
      Option.map_some]
    refine ⟨h.bound, ?_, ?_⟩
    · intro other hother
      cases hother
      exact hclient
    · change some id = (events ++ [some id]).getLast?.join
      rw [List.getLast?_concat]
      rfl

/-- One step keeps track of the registrations. -/
theorem step (h : s.Tracks events) (step : Step) :
    (s.step step).session.Tracks (events ++ (s.registration? step).toList) := by
  have hnothing : events ++ (none : Option (Option Nat)).toList = events := List.append_nil events
  cases step with
  | build kind name operands =>
    refine hnothing.symm ▸ h.same ?_
    simp only [Session.step]
    (repeat' split) <;>
      first
      | exact .refl s
      | exact .bindObject s name _
  | call name method operands handlers =>
    exact hnothing.symm ▸ h.same (.call s name method operands handlers)
  | bindStub name response => exact hnothing.symm ▸ h.addClient name (.stub response)
  | bindPoster name client => exact hnothing.symm ▸ h.addClient name (.poster client)
  | bindBare name => exact hnothing.symm ▸ h.addClient name .bare
  | bindHttp name operands replies =>
    refine hnothing.symm ▸ ?_
    simp only [Session.step, Session.bindHttp]
    (repeat' split) <;>
      first
      | exact h
      | exact h.addClient name _
  | register name => exact h.register name
  | current => exact hnothing.symm ▸ h
  | clear =>
    refine ⟨h.bound, ?_, ?_⟩
    · intro id hid
      cases hid
    · change none = (events ++ [none]).getLast?.join
      rw [List.getLast?_concat]
      rfl

/-- After a program the last registration holds. -/
theorem after (steps : List Step) {s : Session} {events : List (Option Nat)}
    (h : s.Tracks events) : (s.after steps).Tracks (events ++ s.registrations steps) := by
  induction steps generalizing s events with
  | nil => exact (List.append_nil events).symm ▸ h
  | cons first rest ih =>
    have hrest := ih (h.step first)
    rw [List.append_assoc] at hrest
    exact hrest

end Tracks

/-- The path of a request is answered if it can be written. -/
theorem step_path (hr : Entries.get? s.bindings name = some (.object (.request r))) :
    (s.step (.call name "path" {} {})).response =
      match r.pathWriting.fault? s.platform.digits with
      | none => .ok (.value (.str r.path))
      | some cause => .error (.fault (.unwritten cause)) := by
  have hmethod : "path" ≠ "do_search" := by decide
  simp only [step, call, hr, if_neg hmethod]
  rw [callObject_response rfl]
  change ((Answer.write s.platform.digits (.text r.pathWriting)).map _).mapError _ = _
  rw [Answer.write, Writing.write]
  cases r.pathWriting.fault? s.platform.digits <;> rfl

/-- An object that answers its first post, and raises an exception of its own at any other. -/
def answersOnce : Poster where
  typeName := "AnswersOnce"
  answer posts := if posts.length = 1 then .ok (.int 2) else .error (.raised "Busy")

/-- A request that is searched and changed after two clients were registered, one after the other,
and a request that holds an object which is no JSON. -/
def twoClients : List Step :=
  [.build .request "r" {}, .build .request "u" {}, .bindStub "a" (.int 1),
    .bindPoster "b" answersOnce, .register "a", .register "b", .call "r" "do_search" {} {},
    .call "r" "size" { positional := [.plain (.int 5)] } {},
    .call "u" "size" { positional := [.fresh (.query .matchAll) [] [] []] } {}]

end Session

end SearchBuilder
