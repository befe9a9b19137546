import SearchBuilder.Proofs.Client.Backoff
import SearchBuilder.Proofs.Client.Retry
import SearchBuilder.Proofs.Config.Settings

/-!
# Calls that keep failing

What a call does when every attempt fails for a transient reason. Attempts go on as long as pauses
can be computed (`HttpClient.attempt_transient`). So up to a limit of 1025 all of them are made,
with a pause of known length after each but the last, and the last error reaches the caller. Beyond
that limit the pause after attempt 1025 overflows, and the handlers of the caller are passed over
(`HttpClient.transient_call`).
-/

namespace SearchBuilder

/-! ## Outcomes -/

theorem Reply.exists_error {reply : Reply} (h : reply.isTransient = true) :
    ∃ error, reply.error? = some error ∧ error.kind.isTransient = true := by
  unfold isTransient at h
  cases herror : reply.error? with
  | none =>
    rw [herror] at h
    cases h
  | some error =>
    rw [herror] at h
    exact ⟨error, rfl, h⟩

theorem ExceptionKind.isReported_of_isTransient {kind : ExceptionKind}
    (h : kind.isTransient = true) : kind.isReported = true := by
  cases kind <;> first | rfl | cases h

/-- A transient outcome is one of the transport, which had a reply. -/
theorem exists_reply {replies : List Reply} (h : (outcomeOf replies 1).isTransient = true) :
    ∃ reply rest, replies = reply :: rest := by
  cases replies with
  | nil => cases h
  | cons reply rest => exact ⟨reply, rest, rfl⟩

theorem outcomeOf_drop (replies : List Reply) (n attempt : Nat) (h : 1 ≤ attempt) :
    outcomeOf (replies.drop n) attempt = outcomeOf replies (n + attempt) := by
  have hindex : n + (attempt - 1) = n + attempt - 1 := by omega
  unfold outcomeOf
  rw [List.getElem?_drop, hindex]

namespace HttpClient

/-! ## Attempts -/

/-- A series of attempts that repeats a request after each of the given pauses, and goes on as
another one. -/
structure Prolongs (request : Sent) (pauses : List Binary64) (later trace : Trace Ending) :
    Prop where
  sent_eq : trace.sent = List.replicate pauses.length request ++ later.sent
  paused_eq : trace.paused = pauses ++ later.paused
  rest_eq : trace.replies = later.replies
  failures_eq : trace.failures = later.failures
  handed_eq : trace.handed = later.handed
  result_eq : trace.result = later.result

theorem Prolongs.refl (request : Sent) (trace : Trace Ending) : Prolongs request [] trace trace :=
  ⟨rfl, rfl, rfl, rfl, rfl, rfl⟩

theorem Prolongs.trans {request : Sent} {pauses others : List Binary64}
    {last later trace : Trace Ending} (h : Prolongs request others last later)
    (h' : Prolongs request pauses later trace) :
    Prolongs request (pauses ++ others) last trace := by
  refine ⟨?_, ?_, ?_, ?_, ?_, ?_⟩
  · rw [h'.sent_eq, h.sent_eq, List.length_append, ← List.append_assoc,
      List.replicate_append_replicate]
  · rw [h'.paused_eq, h.paused_eq, List.append_assoc]
  · rw [h'.rest_eq, h.rest_eq]
  · rw [h'.failures_eq, h.failures_eq]
  · rw [h'.handed_eq, h.handed_eq]
  · rw [h'.result_eq, h.result_eq]

/-- After its last attempt a series has paused once less than it sent. -/
theorem Prolongs.sent_last {request : Sent} {pauses : List Binary64} {last trace : Trace Ending}
    (h : Prolongs request pauses last trace) (hlast : last.sent = [request]) :
    trace.sent = List.replicate (pauses.length + 1) request := by
  rw [h.sent_eq, hlast, List.replicate_succ']

variable (request : Sent) (path : List Char) {pause? : Nat → Option Binary64} {limit : Nat}

/-- A transient failure before the limit is followed by a pause and the next attempt. -/
theorem attempt_retried {reply : Reply} (htransient : reply.isTransient = true)
    {k : Nat} (hlimit : k < limit) {pause : Binary64} (hpause : pause? k = some pause)
    (rest : List Reply) :
    Prolongs request [pause] (attempt request path limit pause? (k + 1) rest)
      (attempt request path limit pause? k (reply :: rest)) := by
  obtain ⟨error, herror, hkind⟩ := Reply.exists_error htransient
  have hgo : (!error.kind.isTransient || decide (limit ≤ k)) = false := by
    rw [hkind, Bool.not_true, Bool.false_or, decide_eq_false_iff_not]
    omega
  rw [attempt]
  simp only [herror, hgo, hpause, Bool.false_eq_true, if_false]
  refine ⟨rfl, rfl, rfl, ?_, rfl, rfl⟩
  simp [Trace.failures]

/-- Transient failures go on, as long as the pauses between them can be computed. -/
theorem attempt_transient {pause : Nat → Binary64} (n : Nat) :
    ∀ (k : Nat) (replies : List Reply),
      (∀ i, 1 ≤ i → i ≤ n → (outcomeOf replies i).isTransient = true) →
      (∀ i, k ≤ i → i < k + n → pause? i = some (pause i)) → k + n ≤ limit →
      Prolongs request ((List.range' k n).map pause)
        (attempt request path limit pause? (k + n) (replies.drop n))
        (attempt request path limit pause? k replies) := by
  induction n with
  | zero =>
    intro k replies _ _ _
    exact .refl request _
  | succ n ih =>
    intro k replies htransient hpauses hlimit
    obtain ⟨reply, rest, rfl⟩ := exists_reply (htransient 1 (by omega) (by omega))
    have hk : k < limit := by omega
    have hpause := hpauses k (by omega) (by omega)
    have hfirst :=
      attempt_retried request path (htransient 1 (by omega) (by omega)) hk hpause rest
    have hrest : ∀ i, 1 ≤ i → i ≤ n → (outcomeOf rest i).isTransient = true := by
      intro i hi hn
      rw [← outcomeOf_cons_succ reply rest hi]
      exact htransient (i + 1) (by omega) (by omega)
    have hlater := ih (k + 1) rest hrest (fun i hi hn => hpauses i (by omega) (by omega)) (by omega)
    have hnumber : k + (n + 1) = k + 1 + n := by omega
    rw [hnumber, List.drop_succ_cons]
    exact hlater.trans hfirst

/-- The last attempt allowed ends the series with its error. -/
theorem attempt_last {reply : Reply} {error : TransportError} (herror : reply.error? = some error)
    {k : Nat} (hlimit : limit ≤ k) (rest : List Reply) :
    attempt request path limit pause? k (reply :: rest) =
      { sent := [request]
        paused := []
        notices := [.attempting request.method path k limit]
        replies := rest
        result := .ok (.error error) } := by
  have hstop : (!error.kind.isTransient || decide (limit ≤ k)) = true := by
    rw [decide_eq_true hlimit, Bool.or_true]
  rw [attempt]
  simp only [herror, hstop, if_true]

/-- A pause that cannot be computed ends the series with another failure. -/
theorem attempt_overflow {reply : Reply} (htransient : reply.isTransient = true) {k : Nat}
    (hlimit : k < limit) (hpause : pause? k = none) (rest : List Reply) :
    attempt request path limit pause? k (reply :: rest) =
      { sent := [request]
        paused := []
        notices := [.attempting request.method path k limit]
        replies := rest
        result := .error .pauseOverflow } := by
  obtain ⟨error, herror, hkind⟩ := Reply.exists_error htransient
  have hgo : (!error.kind.isTransient || decide (limit ≤ k)) = false := by
    rw [hkind, Bool.not_true, Bool.false_or, decide_eq_false_iff_not]
    omega
  rw [attempt]
  simp only [herror, hgo, hpause, Bool.false_eq_true, if_false]

/-- Attempt `n + 1` is the last one if no other is allowed or the pause after it overflows. -/
theorem attempt_fails {pause : Nat → Binary64} {replies : List Reply} {n : Nat}
    (htransient : ∀ i, 1 ≤ i → i ≤ n + 1 → (outcomeOf replies i).isTransient = true)
    (hpauses : ∀ i, 1 ≤ i → i ≤ n → pause? i = some (pause i)) (hlimit : n + 1 ≤ limit)
    (hend : n + 1 = limit ∨ pause? (n + 1) = none) :
    ∃ error, (outcomeOf replies (n + 1)).error? = some error ∧ error.kind.isReported = true ∧
      Prolongs request ((List.range' 1 n).map pause)
        { sent := [request]
          paused := []
          notices := [.attempting request.method path (n + 1) limit]
          replies := replies.drop (n + 1)
          result := if n + 1 = limit then .ok (.error error) else .error .pauseOverflow }
        (attempt request path limit pause? 1 replies) := by
  have hdrop := outcomeOf_drop replies n 1 (by omega)
  have hlast := htransient (n + 1) (by omega) (by omega)
  obtain ⟨error, herror, hkind⟩ := Reply.exists_error hlast
  obtain ⟨reply, rest, hreplies⟩ := exists_reply (hdrop ▸ hlast)
  rw [hreplies, outcomeOf_cons_one] at hdrop
  have hrest : replies.drop (n + 1) = rest := by
    rw [← List.drop_drop, hreplies]
    rfl
  have hnumber : 1 + n ≤ limit := by omega
  have hprolongs := attempt_transient request path n 1 replies
    (fun i hi hn => htransient i hi (by omega)) (fun i hi hn => hpauses i hi (by omega)) hnumber
  refine ⟨error, herror, ExceptionKind.isReported_of_isTransient hkind, ?_⟩
  rw [hrest]
  rw [Nat.add_comm 1 n, hreplies] at hprolongs
  rw [← hdrop] at herror hlast
  by_cases hsame : n + 1 = limit
  · rw [if_pos hsame]
    rwa [attempt_last request path herror (by omega)] at hprolongs
  · rw [if_neg hsame]
    rwa [attempt_overflow request path hlast (by omega) (hend.resolve_left hsame)] at hprolongs

/-! ## Calls -/

/-- Up to a limit of 1025, a call that only meets transient failures makes all attempts and brings
the last error to the caller. Beyond it the call stops after attempt 1025 with an overflow. -/
theorem transient_call (settings : ClientSettings) (hcheck : settings.check = .ok ())
    (replies : List Reply) (client : HttpClient) (hconnect : settings.connect replies = .ok client)
    (htransient : ∀ k, 1 ≤ k → k ≤ settings.maxAttempts.toNat →
      (outcomeOf replies k).isTransient = true)
    (platform : Platform) (hjitter : ∀ k, Backoff.IsJitter (platform.jitter k))
    (method path : String) (params body : Json)
    (hparams : params.isTruthy = false ∨ ∃ members, params = .obj members)
    (hwritable : HttpCall.Writable platform.digits { method, path := .str path, params, body })
    (handlers : Handlers) (parts : Url) (hsplit : Url.split (client.url path).toList = .ok parts) :
    let limit := settings.maxAttempts.toNat
    let made := min limit 1025
    let call : HttpCall := { method, path := .str path, params, body }
    let trace := client.call call handlers platform
    (∀ jitter, Backoff.IsJitter jitter → ∀ k, 1 ≤ k → k ≤ 1024 →
      Backoff.pause? k jitter = some (Backoff.pause k jitter) ∧
        Backoff.base.le (Backoff.pause k jitter) = true ∧
        (Backoff.pause k jitter).le Backoff.longest = true ∧
        ∀ later, k ≤ later → (Backoff.pause k jitter).le (Backoff.pause later jitter) = true) ∧
      (∀ k jitter, Backoff.pause? k jitter = none ↔ 1025 ≤ k) ∧
      ∃ sent, sent.Carries client method path params body ∧
        trace.sent = List.replicate made sent ∧
        trace.paused =
          (List.range' 1 (made - 1)).map (fun k => Backoff.pause k (platform.jitter (k - 1))) ∧
        trace.replies = replies.drop made ∧
        if limit ≤ 1025 then
          ∃ error, (outcomeOf replies limit).error? = some error ∧ error.kind.isReported = true ∧
            trace.Brings call handlers (.error error)
        else trace.result = .error .pauseOverflow ∧ trace.handed = [] ∧ trace.failures = [] := by
  intro limit made call trace
  have hpos := ClientSettings.one_le_of_check hcheck
  obtain ⟨url, hurl⟩ := ClientSettings.exists_baseUrl hconnect
  rw [ClientSettings.connect_of_check hcheck hurl replies, Except.ok.injEq] at hconnect
  have hattempts : client.attempts = .count limit := by rw [← hconnect]
  have hreplies : client.replies = replies := by rw [← hconnect]
  obtain ⟨sent, hrequest⟩ := client.exists_request hparams hwritable
  have hcarries := request_carries hrequest
  rw [← hcarries.url_eq] at hsplit
  obtain ⟨hsent, hpaused, hrest, hfailed, hended⟩ :=
    call_series hattempts hrequest hsplit handlers
  rw [hreplies] at hsent hpaused hrest hfailed hended
  obtain ⟨n, hn⟩ : ∃ n, made = n + 1 := Nat.exists_eq_add_of_le' (by omega)
  have hlimit : n + 1 ≤ limit := by omega
  have hend : n + 1 = limit ∨ platform.pause? (n + 1) = none := by
    rw [Platform.pause?, Backoff.pause?_eq_none_iff]
    omega
  have hfails : ∀ i, 1 ≤ i → i ≤ n + 1 → (outcomeOf replies i).isTransient = true :=
    fun i hi hle => htransient i hi (by omega)
  have hpauses : ∀ i, 1 ≤ i → i ≤ n →
      platform.pause? i = some (Backoff.pause i (platform.jitter (i - 1))) :=
    fun i hi hle => Backoff.pause?_eq hi (by omega) (hjitter (i - 1))
  obtain ⟨error, herror, hreported, hprolongs⟩ :=
    attempt_fails sent parts.path hfails hpauses hlimit hend
  refine ⟨?_, fun k jitter => Backoff.pause?_eq_none_iff k jitter, sent, hcarries, ?_, ?_, ?_, ?_⟩
  · intro jitter hjitter k hk hle
    exact ⟨Backoff.pause?_eq hk hle hjitter, Backoff.base_le_pause hjitter,
      Backoff.pause_le_longest hjitter, fun later hlater => Backoff.pause_le_pause hjitter hlater⟩
  · have hlength : ((List.range' 1 n).map fun k =>
        Backoff.pause k (platform.jitter (k - 1))).length + 1 = made := by
      rw [List.length_map, List.length_range', hn]
    rw [← hlength, ← hprolongs.sent_last rfl]
    exact hsent
  · have hbefore : made - 1 = n := by omega
    rw [hbefore, ← List.append_nil (List.map _ _)]
    exact hpaused.trans hprolongs.paused_eq
  · rw [hn]
    exact hrest.trans hprolongs.rest_eq
  · by_cases hsmall : limit ≤ 1025
    · have hsame : n + 1 = limit := by omega
      rw [if_pos hsmall, ← hsame]
      have hresult := hprolongs.result_eq.trans (if_pos hsame)
      exact ⟨error, herror, hreported, hended (.error error) hresult hprolongs.failures_eq⟩
    · have hsame : n + 1 ≠ limit := by omega
      rw [if_neg hsmall]
      obtain ⟨hresult, hhanded, hfailures⟩ :=
        hfailed .pauseOverflow (hprolongs.result_eq.trans (if_neg hsame))
      exact ⟨hresult, hhanded.trans hprolongs.handed_eq, hfailures.trans hprolongs.failures_eq⟩

/-- Settings with one attempt more than pauses can be computed for. -/
def tireless : ClientSettings where
  serverUrl := "http://h:80"
  timeout := .ofNat 30
  maxAttempts := 1026
  username := ""
  passwordVariable := "ELASTIC_PASSWORD"
  password := ""

theorem tireless_call :
    let busy : Reply := .answer 503 "" .null
    ∃ client, tireless.check = .ok () ∧
      tireless.connect (List.replicate 1026 busy) = .ok client ∧
      Backoff.IsJitter (.zero false) ∧
      (∀ k, 1 ≤ k → k ≤ 1026 → (outcomeOf (List.replicate 1026 busy) k).isTransient = true) ∧
      let trace := client.call { method := "GET", path := .str "/a" }
        { onError := some fun error => .ok (.str error.message) } {}
      trace.sent.length = 1025 ∧ trace.result = .error .pauseOverflow ∧ trace.handed = [] := by
  intro busy
  have hcheck : tireless.check = .ok () := eq_ok_of_toOption (by decide +kernel)
  have hurl : SearchBuilder.baseUrl (.str tireless.serverUrl) .null = .ok "http://h:80" :=
    eq_ok_of_toOption (by decide +kernel)
  have hconnect := ClientSettings.connect_of_check hcheck hurl (List.replicate 1026 busy)
  have hsplit : ∀ client : HttpClient, client.baseUrl = "http://h:80" →
      Url.split (client.url "/a").toList =
        .ok ⟨"http".toList, "h:80".toList, "/a".toList⟩ := by
    intro client hbase
    have hpath : client.url "/a" = "http://h:80/a" := by
      rw [url, hbase]
      decide +kernel
    rw [hpath]
    rfl
  have hjitter : Backoff.IsJitter (.zero false) := ⟨by decide +kernel, by decide +kernel⟩
  have htransient : ∀ k, 1 ≤ k → k ≤ 1026 →
      (outcomeOf (List.replicate 1026 busy) k).isTransient = true := by
    intro k hk hle
    have hindex : k - 1 < 1026 := by omega
    rw [outcomeOf, List.getElem?_replicate, if_pos hindex]
    rfl
  obtain ⟨-, -, sent, -, hsent, -, -, hresult, hhanded, -⟩ :=
    transient_call tireless hcheck _ _ hconnect htransient {} (fun _ => hjitter) "GET" "/a" .null
      .null (.inl rfl) ⟨fun h => (by cases h), .inr rfl⟩
      { onError := some fun error => .ok (.str error.message) } _ (hsplit _ rfl)
  refine ⟨_, hcheck, hconnect, hjitter, htransient, ?_, hresult, hhanded⟩
  exact (congrArg List.length hsent).trans List.length_replicate

end HttpClient

end SearchBuilder
