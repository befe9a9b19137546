import SearchBuilder.Proofs.Client.Pause
import SearchBuilder.Proofs.Client.Sent

/-!
# Retries

A call repeats its request until an outcome is not transient or the limit of attempts is reached.
`Decides limit replies n` says that this happens at attempt `n`, which is unique
(`Decides.unique`). The number of requests is `n`, a pause stands between any two of them, and the
outcome of attempt `n` alone decides what reaches the caller (`call_decided`). A call that cannot
write its parameters or its body makes no attempt.

The first 1024 pauses can be computed, so limits up to 1025 never overflow.
-/

namespace SearchBuilder

/-! ## Outcomes of attempts -/

/-- What an attempt meets when the transport has nothing left to reply. -/
def Reply.exhausted : Reply := .raised ⟨.runtime, "no reply"⟩

/-- The outcome of an attempt, counted from one. -/
def outcomeOf (replies : List Reply) (attempt : Nat) : Reply :=
  replies[attempt - 1]?.getD .exhausted

@[simp] theorem outcomeOf_cons_one (reply : Reply) (rest : List Reply) :
    outcomeOf (reply :: rest) 1 = reply := rfl

theorem outcomeOf_cons_succ (reply : Reply) (rest : List Reply) {attempt : Nat}
    (h : 1 ≤ attempt) : outcomeOf (reply :: rest) (attempt + 1) = outcomeOf rest attempt := by
  obtain ⟨k, rfl⟩ := Nat.exists_eq_add_of_le h
  rw [Nat.add_comm 1 k]
  rfl

/-- Attempt `n` is the first whose outcome is not transient, or else the last one allowed. -/
structure Decides (limit : Nat) (replies : List Reply) (n : Nat) : Prop where
  pos : 1 ≤ n
  le_limit : n ≤ limit
  before : ∀ k, 1 ≤ k → k < n → (outcomeOf replies k).isTransient = true
  last : n = limit ∨ (outcomeOf replies n).isTransient = false

namespace Decides

variable {limit n m : Nat} {replies rest : List Reply} {reply : Reply}

theorem unique (hn : Decides limit replies n) (hm : Decides limit replies m) : n = m := by
  have hlt : ∀ {a b : Nat}, Decides limit replies a → Decides limit replies b → ¬ a < b := by
    intro a b ha hb hab
    have htransient := hb.before a ha.pos hab
    rcases ha.last with hlimit | hstop
    · have := hb.le_limit
      omega
    · rw [htransient] at hstop
      cases hstop
  have hnm := hlt hn hm
  have hmn := hlt hm hn
  omega

/-- The first attempt decides if its outcome is not transient or no other is allowed. -/
theorem first (hlimit : 1 ≤ limit)
    (h : limit = 1 ∨ (outcomeOf replies 1).isTransient = false) : Decides limit replies 1 where
  pos := Nat.le_refl 1
  le_limit := hlimit
  before := fun k hk hlt => by omega
  last := h.imp Eq.symm id

/-- After a transient outcome the attempts that follow decide. -/
theorem later (hreply : reply.isTransient = true) (h : Decides limit rest n) :
    Decides (limit + 1) (reply :: rest) (n + 1) where
  pos := by omega
  le_limit := by
    have := h.le_limit
    omega
  before := by
    intro k hk hlt
    cases k with
    | zero => omega
    | succ k =>
      cases k with
      | zero => exact hreply
      | succ k =>
        rw [outcomeOf_cons_succ reply rest (by omega)]
        exact h.before (k + 1) (by omega) (by omega)
  last := by
    rw [outcomeOf_cons_succ reply rest h.pos]
    exact h.last.imp (congrArg (· + 1)) id

end Decides

/-! ## Series of attempts -/

/-- The exception or answer that an outcome amounts to. -/
def Reply.ending (r : Reply) : HttpClient.Ending :=
  match r.error? with
  | some error => .error error
  | none => .ok r

/-- The error messages among what was logged. -/
def Trace.failures {α : Type} (trace : Trace α) : List Notice :=
  trace.notices.filter (·.severity = .error)

namespace Notice

@[simp] theorem attempting_severity (method : String) (path : List Char) (attempt limit : Nat) :
    (attempting method path attempt limit).severity = .debug := rfl

@[simp] theorem retrying_severity (method : String) (attempt limit : Nat) (pause : Binary64)
    (error : TransportError) : (retrying method attempt limit pause error).severity = .warning :=
  rfl

@[simp] theorem callFailed_severity (method path : String) (error : TransportError) :
    (callFailed method path error).severity = .error := rfl

end Notice

namespace HttpClient

/-- A series of attempts that starts with attempt `k` and is decided by its `n`-th. -/
structure Series (request : Sent) (pause? : Nat → Option Binary64) (k n : Nat)
    (replies : List Reply) (trace : Trace Ending) : Prop where
  sent_eq : trace.sent = List.replicate n request
  paused_eq : trace.paused.map some = (List.range' k (n - 1)).map pause?
  rest_eq : trace.replies = replies.drop n
  failures_eq : trace.failures = []
  result_eq : trace.result = .ok (outcomeOf replies n).ending

theorem Series.single (request : Sent) (path : List Char) (pause? : Nat → Option Binary64)
    (limit k : Nat) (replies : List Reply) :
    Series request pause? k 1 replies
      { sent := [request]
        paused := []
        notices := [.attempting request.method path k limit]
        replies := replies.drop 1
        result := .ok (outcomeOf replies 1).ending } := by
  refine ⟨rfl, rfl, rfl, ?_, rfl⟩
  simp [Trace.failures]

/-- The limit stays in front of the attempts, so that a series may start with any of them: attempt
`k` is the first of `limit + 1 - k`. -/
theorem attempt_series (request : Sent) (path : List Char) {pause? : Nat → Option Binary64}
    {limit : Nat} (hpauses : ∀ k < limit, ∃ pause, pause? k = some pause) (replies : List Reply)
    (k : Nat) (hle : k ≤ limit) :
    ∃ n, Decides (limit + 1 - k) replies n ∧
      Series request pause? k n replies (attempt request path limit pause? k replies) := by
  induction replies generalizing k with
  | nil =>
    refine ⟨1, .first (by omega) (.inr rfl), ?_⟩
    rw [attempt]
    exact .single request path pause? limit k []
  | cons reply rest ih =>
    cases herror : reply.error? with
    | none =>
      have htransient : reply.isTransient = false := by simp [Reply.isTransient, herror]
      have hending : reply.ending = .ok reply := by simp [Reply.ending, herror]
      refine ⟨1, .first (by omega) (.inr htransient), ?_⟩
      simp only [attempt, herror]
      simpa [hending] using Series.single request path pause? limit k (reply :: rest)
    | some error =>
      have hkind : reply.isTransient = error.kind.isTransient := by
        simp [Reply.isTransient, herror]
      have hending : reply.ending = .error error := by simp [Reply.ending, herror]
      -- The test of the loop: an error that is not transient, or no attempt left.
      by_cases hstop : (!error.kind.isTransient || decide (limit ≤ k)) = true
      · have hlast : limit + 1 - k = 1 ∨ reply.isTransient = false := by
          rw [hkind]
          simp only [Bool.or_eq_true, Bool.not_eq_true', decide_eq_true_eq] at hstop
          rcases hstop with hfalse | hend
          · exact .inr hfalse
          · exact .inl (by omega)
        refine ⟨1, .first (by omega) hlast, ?_⟩
        simp only [attempt, herror, hstop, if_true]
        simpa [hending] using Series.single request path pause? limit k (reply :: rest)
      · obtain ⟨htrue, hlt⟩ : error.kind.isTransient = true ∧ k < limit := by
          simp only [Bool.or_eq_true, Bool.not_eq_true', decide_eq_true_eq, not_or,
            Bool.not_eq_false, Nat.not_le] at hstop
          exact hstop
        obtain ⟨pause, hpause⟩ := hpauses k hlt
        obtain ⟨n, hdecides, hseries⟩ := ih (k + 1) (by omega)
        have hrest : limit + 1 - k = limit + 1 - (k + 1) + 1 := by omega
        obtain ⟨m, rfl⟩ := Nat.exists_eq_add_of_le' hdecides.pos
        refine ⟨m + 2, hrest ▸ hdecides.later (hkind.trans htrue), ?_⟩
        simp only [attempt, herror, hstop, if_false, hpause, Bool.false_eq_true]
        refine ⟨?_, ?_, hseries.rest_eq, ?_, ?_⟩
        · rw [hseries.sent_eq]
          rfl
        · have hpaused := hseries.paused_eq
          simp only [Nat.add_sub_cancel] at hpaused
          simp only [List.map_cons, hpaused, ← hpause]
          rfl
        · simpa [Trace.failures] using hseries.failures_eq
        · rw [outcomeOf_cons_succ reply rest hdecides.pos]
          exact hseries.result_eq

end HttpClient

/-! ## Calls -/

/-- What the outcome of an attempt says: an exception, a transient answer, the headers that were
asked for, nothing, or what is read from the body. -/
def Reply.verdict (read : String → Except TransportError Json) (method : String) :
    Reply → Except TransportError Json
  | .raised error => .error error
  | .answer status body headers =>
    if status ∈ retryableStatuses then .error ⟨.http, s!"HTTP {status}"⟩
    else if method = "HEAD" then .ok headers
    else if body = "" then .ok .null
    else read body

/-- How a verdict reaches the caller. A value is handed to the success handler once, or else
answered. A reported exception is handed to the error handler once, or else logged once; all
others escape. -/
def Trace.Brings (trace : Trace Json) (call : HttpCall) (handlers : Handlers) :
    Except TransportError Json → Prop
  | .ok value =>
    trace.failures = [] ∧
      match handlers.onSuccess with
      | some handle => trace.handed = [.value value] ∧ trace.result = handle value
      | none => trace.handed = [] ∧ trace.result = .ok value
  | .error error =>
    if error.kind.isReported then
      match handlers.onError with
      | some handle =>
        trace.failures = [] ∧ trace.handed = [.error error] ∧ trace.result = handle error
      | none =>
        trace.failures = [.callFailed call.method call.path.plainText error] ∧
          trace.handed = [] ∧ trace.result = .ok .null
    else trace.failures = [] ∧ trace.handed = [] ∧ trace.result = .error (.escaped error)

namespace HttpClient

/-- Decoding the end of a series of attempts gives the verdict of its last outcome. -/
theorem ending_bind_decode (platform : Platform) (method : String) (r : Reply) :
    (r.ending >>= decode platform method) = r.verdict platform.read method := by
  cases r with
  | raised error => rfl
  | answer status body headers =>
    by_cases hstatus : status ∈ retryableStatuses
    · have hcontains : retryableStatuses.contains status = true := List.contains_iff_mem.2 hstatus
      simp only [Reply.ending, Reply.error?, Reply.verdict, hcontains, hstatus, if_true]
      rfl
    · have hcontains : retryableStatuses.contains status = false := by
        simpa [List.contains_iff_mem] using hstatus
      simp only [Reply.ending, Reply.error?, Reply.verdict, hcontains, hstatus, if_false,
        Bool.false_eq_true]
      change decode platform method (.answer status body headers) = _
      simp only [decode, String.isEmpty_iff]

/-- The handlers are given what the verdict says, after whatever a trace holds besides. -/
theorem brings_route (trace : Trace Ending) (hfailures : trace.failures = []) (call : HttpCall)
    (handlers : Handlers) (verdict : Except TransportError Json) :
    let delivery := route call handlers verdict
    ({ trace with
        result := delivery.result
        handed := delivery.handed
        notices := trace.notices ++ delivery.notices } : Trace Json).Brings call handlers
      verdict := by
  simp only [Trace.failures] at hfailures
  cases verdict with
  | ok value =>
    cases hsuccess : handlers.onSuccess <;>
      simp [route, Trace.Brings, Trace.failures, hsuccess, hfailures]
  | error error =>
    cases hreported : error.kind.isReported with
    | false => simp [route, Trace.Brings, Trace.failures, hreported, hfailures]
    | true =>
      cases herror : handlers.onError <;>
        simp [route, Trace.Brings, Trace.failures, hreported, herror, hfailures]

/-- A call that can be written and whose URL can be split makes a series of attempts. A failure of
the series is its own; any other end is brought to the caller. -/
theorem call_series {client : HttpClient} {limit : Nat} (hattempts : client.attempts = .count limit)
    {call : HttpCall} {platform : Platform} {sent : Sent}
    (hsent : client.request platform.digits call = .ok sent) {parts : Url}
    (hsplit : Url.split sent.url.toList = .ok parts) (handlers : Handlers) :
    let trace := client.call call handlers platform
    let series := attempt sent parts.path limit platform.pause? 1 client.replies
    trace.sent = series.sent ∧ trace.paused = series.paused ∧ trace.replies = series.replies ∧
      (∀ failure, series.result = .error failure →
        trace.result = .error failure ∧ trace.handed = series.handed ∧
          trace.failures = series.failures) ∧
      ∀ ending, series.result = .ok ending → series.failures = [] →
        trace.Brings call handlers (ending >>= decode platform call.method) := by
  intro trace series
  have hsend : client.send sent platform = series := by
    simp only [send, hattempts, hsplit, series]
  cases hresult : series.result with
  | error failure =>
    have htrace : trace = { series with result := .error failure } := by
      simp only [trace, HttpClient.call, hsent, hsend, hresult]
    rw [htrace]
    refine ⟨rfl, rfl, rfl, ?_, ?_⟩
    · intro other hother
      cases hother
      exact ⟨rfl, rfl, rfl⟩
    · intro ending hending
      cases hending
  | ok ending =>
    have htrace : trace =
        let delivery := route call handlers (ending >>= decode platform call.method)
        { series with
          result := delivery.result
          handed := delivery.handed
          notices := series.notices ++ delivery.notices } := by
      simp only [trace, HttpClient.call, hsent, hsend, hresult]
    rw [htrace]
    refine ⟨rfl, rfl, rfl, ?_, ?_⟩
    · intro failure hfailure
      cases hfailure
    · intro other hother hfailures
      cases hother
      exact brings_route series hfailures call handlers (ending >>= decode platform call.method)

/-- A client of a server that is busy, then too slow, and answers the third attempt. -/
def patient : HttpClient where
  baseUrl := "http://h:80"
  timeout := defaultTimeout
  attempts := .count 3
  auth := .null
  replies := [.answer 503 "" .null, .raised ⟨.timeout, "slow"⟩, .answer 200 "{}" .null]

/-- A platform that limits digits and draws another part of a second for each pause. -/
def jittery : Platform where
  digits := some 4300
  jitter := fun k => if k = 0 then .ofDecimal false 25 (-2) else .ofDecimal false 125 (-3)

end HttpClient

end SearchBuilder
