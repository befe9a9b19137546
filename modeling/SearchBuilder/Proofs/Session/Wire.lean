import SearchBuilder.Proofs.Client.Answer
import SearchBuilder.Proofs.Json.RoundTrip
import SearchBuilder.Proofs.Session.Refusal

/-!
# Requests on the wire

The text of a request and the body that a search posts are two spellings of one value, which a
reader gets back from either (`Session.search_roundTrip`). A client of a server sends the body as
it is, with every attempt, and an answer that repeats it comes back as the same value.
-/

namespace SearchBuilder

/-- A text in printable ASCII from which a value is read. -/
structure Json.Spells (text : String) (j : Json) : Prop where
  reads : Json.parse text.toList = .ok j
  ascii : ∀ c ∈ text.toList, IsPrintable c

theorem Json.spells_print {spacing : Spacing} (hs : spacing.Separates) {j : Json}
    (hj : j.isExact = true) : Json.Spells (String.ofList (print spacing j)) j where
  reads := by
    rw [String.toList_ofList]
    exact parse_print hs hj
  ascii := by
    rw [String.toList_ofList]
    exact isPrintable_print hs j hj

/-- No value is spelled by the empty text. -/
theorem Json.Spells.ne_empty {text : String} {j : Json} (h : Json.Spells text j) : text ≠ "" := by
  rintro rfl
  cases h.reads

mutual

/-- Without a limit of digits a value that is JSON can be written. -/
theorem Json.writable_of_isExact {object : Option TextFault} :
    ∀ j : Json, j.isExact = true → j.Writable none object
  | .null, _ | .bool _, _ | .int _, _ | .str _, _ => rfl
  | .float _, h | .foreign .., h => by cases h
  | .arr items, h => Json.writable_arr.2 (Json.items_writable_of_isExact items h)
  | .obj members, h =>
    Json.writable_obj.2 (Json.members_writable_of_isExact members (Bool.and_eq_true_iff.1 h).2)

theorem Json.items_writable_of_isExact {object : Option TextFault} :
    ∀ items : List Json, Json.itemsExact items = true → ∀ item ∈ items, item.Writable none object
  | [], _ => List.forall_mem_nil _
  | first :: rest, h =>
    have h := Bool.and_eq_true_iff.1 h
    List.forall_mem_cons.2
      ⟨Json.writable_of_isExact first h.1, Json.items_writable_of_isExact rest h.2⟩

theorem Json.members_writable_of_isExact {object : Option TextFault} :
    ∀ members : List (String × Json), Json.membersExact members = true →
      ∀ entry ∈ members, entry.2.Writable none object
  | [], _ => List.forall_mem_nil _
  | (_, value) :: rest, h =>
    have h := Bool.and_eq_true_iff.1 h
    List.forall_mem_cons.2
      ⟨Json.writable_of_isExact value h.1, Json.members_writable_of_isExact rest h.2⟩

end

/-- A request without doubles can be sent if digits are not limited. -/
theorem Request.fault?_of_isExact {r : Request} (h : r.body.fragment.isExact = true) :
    r.fault? none = none :=
  Option.or_eq_none_iff.2
    ⟨fault?_pathWriting fun param _ => param.2.writable_free, Json.writable_of_isExact _ h⟩

/-- A reader of answers gets what it should out of every text that is JSON. -/
def Platform.ReadsJson (platform : Platform) : Prop :=
  ∀ text j, Json.parse text.toList = .ok j → platform.read text = .ok j

/-- A platform that reads by the rules of JSON alone reads what is spelled. -/
theorem readsJson_strictly : ({} : Platform).ReadsJson := by
  intro text j h
  change ((Json.parse text.toList).mapError _) = _
  rw [h]
  rfl

/-- An answer of success with a text as its body is decoded to the value of the text. -/
theorem HttpClient.decode_spells {platform : Platform} (hread : platform.ReadsJson) {text : String}
    {j : Json} (h : Json.Spells text j) (headers : Json) :
    decode platform "POST" (.answer 200 text headers) = .ok j := by
  have hempty : text.isEmpty = false := by
    rw [← Bool.not_eq_true, String.isEmpty_iff]
    exact h.ne_empty
  simp only [decode, hempty]
  exact hread text j h.reads

namespace Session

/-! ## Searches -/

/-- The client to which a search goes: the one that is named, or else the registered one. -/
def recipient? (s : Session) (named : Option Operand) : Option Nat :=
  match named with
  | none | some (.plain .null) => s.registered
  | some (.ref name) => s.clientId? name
  | some _ => none

variable {s : Session} {r : Request} {name maker : String} {id : Nat} {client : Client}

theorem recipient_of_recipient? {named : Option Operand} (h : s.recipient? named = some id) :
    s.recipient named = .ok id := by
  unfold recipient? at h
  unfold recipient
  split at h
  · simp only [h]
  · simp only [h]
  · simp only [h]
  · cases h

/-- A search that can be sent is a call of `post` with the path and the spaced body. -/
theorem search_posts {named : Option Operand} (hid : s.recipient? named = some id)
    (hclient : s.clients[id]? = some (maker, client)) (hfault : r.fault? s.platform.digits = none)
    (handlers : Handlers) :
    let posted := s.callClient id client "post"
      { positional := [.plain (.str r.path), .plain (.str r.body.fragment.spaced)] } handlers
    s.search r named handlers =
      { posted with notices := .searching r.path :: posted.notices } := by
  intro posted
  obtain ⟨hpath, hbody⟩ := Option.or_eq_none_iff.1 hfault
  have hpath : r.pathWriting.write s.platform.digits = .ok r.path :=
    Writing.write_eq_ok.2 ⟨hpath, rfl⟩
  have hbody : r.bodyWriting.write s.platform.digits = .ok r.body.fragment.spaced :=
    Writing.write_eq_ok.2 ⟨(Writing.fault?_spaced _).trans hbody, rfl⟩
  simp only [search, recipient_of_recipient? hid, hpath, hbody, post, hclient]
  rfl

/-- A search is a step about the request. -/
theorem step_search (hr : Entries.get? s.bindings name = some (.object (.request r)))
    (operands : Operands) (handlers : Handlers) :
    s.step (.call name "do_search" operands handlers) =
      { s.search r (clientOperand operands) handlers with subject := some (name, .request r) } := by
  simp only [step, call, hr, if_pos]

/-- The compact text of a request is that of its body, as long as the body can be written. -/
theorem step_toString (hr : Entries.get? s.bindings name = some (.object (.request r)))
    (hbody : r.body.kind = .request)
    (hwritable : r.body.fragment.Writable s.platform.digits (some .notJson)) (handlers : Handlers) :
    (s.step (.call name "to_string" {} handlers)).response =
      .ok (.value (.str r.body.fragment.compact)) := by
  have hmethod : Entries.get? r.body.kind.methods "to_string" = some (.inspect .text) := by
    rw [hbody]
    rfl
  have hcall : ((Object.request r).call "to_string" {}).answer =
      .ok (.text { text := r.body.text, documents := [r.body.fragment] }) := by
    change ((r.body.call "to_string" {}).map fun n => _).answer = _
    simp only [Node.call, hmethod]
    rfl
  have hwrite : Writing.write s.platform.digits
      { text := r.body.text, documents := [r.body.fragment] } = .ok r.body.fragment.compact :=
    Writing.write_eq_ok.2 ⟨(Writing.fault?_spaced _).trans hwritable, rfl⟩
  have hsearch : "to_string" ≠ "do_search" := by decide
  simp only [step, call, hr, if_neg hsearch]
  rw [callObject_response rfl, Outcome.written, hcall]
  change ((Answer.write s.platform.digits (.text _)).map _).mapError _ = _
  rw [Answer.write, hwrite]
  rfl

/-- The text of a reachable request without doubles and the body that its search posts are read back
as the value that the request holds, and both are printable ASCII. A client of a server sends that
body, not encoded again, with every attempt; if it is answered with one of the two texts, the value
is handed over. This needs a platform that reads JSON, and one that limits no digits or a request
with none too many. -/
theorem search_roundTrip (platform : Platform) (hread : platform.ReadsJson) (steps : List Step)
    (name : String) (r : Request) :
    let s := ({ platform } : Session).after steps
    Entries.get? s.bindings name = some (.object (.request r)) →
    r.body.fragment.isExact = true →
    (platform.digits = none ∨ r.fault? platform.digits = none) →
    ∃ text body : String,
      (s.step (.call name "to_string" {} {})).response = .ok (.value (.str text)) ∧
      Json.Spells text r.body.fragment ∧ Json.Spells body r.body.fragment ∧
      ∀ operands handlers id maker client,
        s.recipient? (clientOperand operands) = some id →
        s.clients[id]? = some (maker, client) →
        let result := s.step (.call name "do_search" operands handlers)
        (∀ poster, client = .poster poster →
          result.transmissions = [.posted (.str r.path) (.str body)]) ∧
        ∀ http, client = .http http →
          let trace := http.call { method := "POST", path := .str r.path, body := .str body }
            handlers (s.platform.skip s.drawn)
          result.transmissions = trace.sent.map .requested ∧
          result.response = (trace.result.map .value).mapError (.client ∘ .call) ∧
          (∀ sent ∈ trace.sent,
            sent.Carries http "POST" r.path .null (.str body) ∧ sent.data = .str body) ∧
          ∀ i echo headers handle, i < trace.sent.length →
            http.replies[i]? = some (.answer 200 echo headers) → echo = text ∨ echo = body →
            handlers.onSuccess = some handle →
            trace.handed = [.value r.body.fragment] ∧ trace.result = handle r.body.fragment := by
  intro s hr hexact hdigits
  have hs : s.All Object.HasRequestBody :=
    hasRequestBody_keeps.after steps (all_start platform _) (obeys_free steps _)
  have hplatform : s.platform = platform := after_platform steps _
  have hfault : r.fault? s.platform.digits = none := by
    rw [hplatform]
    rcases hdigits with hnone | hno
    · rw [hnone]
      exact Request.fault?_of_isExact hexact
    · exact hno
  have hfragment := (Option.or_eq_none_iff.1 hfault).2
  have htext := Json.spells_print Json.Spacing.compact_separates hexact
  have hbody := Json.spells_print Json.Spacing.spaced_separates hexact
  refine ⟨_, _, step_toString hr (hs name _ hr) hfragment {}, htext, hbody, ?_⟩
  intro operands handlers id maker client hid hclient result
  have hresult : result = _ := step_search hr operands handlers
  rw [search_posts hid hclient hfault handlers] at hresult
  refine ⟨?_, ?_⟩
  · rintro poster rfl
    rw [hresult]
    rfl
  · rintro http rfl trace
    rw [hresult]
    refine ⟨rfl, ?_, fun sent hsent => ?_, ?_⟩
    · change (((trace.result.map _).mapError _).map _).mapError _ = _
      cases trace.result <;> rfl
    · have hcarries := HttpClient.request_carries (http.call_sent _ handlers _ sent hsent)
      exact ⟨hcarries, hcarries.data.eq_text⟩
    intro i echo headers handle hi hreply hecho hhandle
    have hjson : (s.platform.skip s.drawn).ReadsJson := hplatform ▸ hread
    have hread : HttpClient.decode (s.platform.skip s.drawn) "POST" (.answer 200 echo headers) =
        .ok r.body.fragment := by
      rcases hecho with rfl | rfl
      · exact HttpClient.decode_spells hjson htext headers
      · exact HttpClient.decode_spells hjson hbody headers
    obtain ⟨hanswer, hhanded⟩ := http.call_answered _ handlers _ hi hreply rfl
    rw [hread] at hanswer hhanded
    simp only [HttpClient.route, hhandle] at hanswer hhanded
    exact ⟨hhanded, hanswer⟩

/-- A search for an accented text, which the server answers with the text of the search. -/
def echoedSearch : List Step :=
  [.build .request "r" {}, .call "r" "timeout" { positional := [.plain (.str "é")] } {},
    .bindHttp "h" {} [.answer 200 "\x7b\"timeout\":\"\\u00e9\"\x7d" .null], .register "h"]

theorem echoedSearch_roundTrip :
    let s := ({} : Session).after echoedSearch
    let query : Json := .obj [("timeout", .str "é")]
    ∃ r, Entries.get? s.bindings "r" = some (.object (.request r)) ∧
      r.body.fragment = query ∧ r.body.fragment.isExact = true ∧
      (s.step (.call "r" "do_search" {} { onSuccess := some .ok })).response =
        .ok (.value query) := by
  intro s query
  let r : Request := { body := { kind := .request, fragment := query } }
  have hr : Entries.get? s.bindings "r" = some (.object (.request r)) := rfl
  have hexact : r.body.fragment.isExact = true := rfl
  refine ⟨r, hr, rfl, hexact, ?_⟩
  obtain ⟨text, body, htext, -, -, hsearch⟩ :=
    search_roundTrip {} readsJson_strictly echoedSearch "r" r hr hexact (.inl rfl)
  have hecho : "\x7b\"timeout\":\"\\u00e9\"\x7d" = text := by
    cases htext
    rfl
  obtain ⟨client, hclient, hattempts, hreplies, hurl⟩ :
      ∃ client : HttpClient, s.clients[0]? = some ("h", .http client) ∧
        client.attempts = .count 3 ∧
        client.replies = [.answer 200 "\x7b\"timeout\":\"\\u00e9\"\x7d" .null] ∧
        client.url r.path = "http://localhost:9200/_search" :=
    ⟨_, rfl, rfl, rfl, by decide +kernel⟩
  have hsplit : Url.split (client.url r.path).toList =
      .ok ⟨"http".toList, "localhost:9200".toList, "/_search".toList⟩ := by
    rw [hurl]
    rfl
  obtain ⟨-, hresponse, -, hanswered⟩ :=
    (hsearch {} { onSuccess := some .ok } 0 "h" (.http client) rfl hclient).2 client rfl
  obtain ⟨-, hresult⟩ := hanswered 0 _ .null .ok
    (HttpClient.post_sent_pos hattempts hsplit body _ _) (by rw [hreplies]; rfl) (.inl hecho) rfl
  rw [hresponse, hresult]
  rfl

end Session

end SearchBuilder
