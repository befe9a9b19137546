import SearchBuilder.Proofs.Client.Sent

/-!
# Answered attempts

All attempts of a call send the request of the call (`HttpClient.call_sent`), and an attempt that
is answered without a failure is the last one: its answer is decoded and handed to the caller
(`HttpClient.call_answered`).
-/

namespace SearchBuilder.HttpClient

section Attempts

variable (request : Sent) (path : List Char) (limit : Nat) (pause? : Nat → Option Binary64)

/-- An attempt is the last one, or it failed and the attempts after it decide. -/
theorem attempt_cons (k : Nat) (reply : Reply) (rest : List Reply) :
    let trace := attempt request path limit pause? k (reply :: rest)
    let later := attempt request path limit pause? (k + 1) rest
    (trace.sent = [request] ∧ (reply.error? = none → trace.result = .ok (.ok reply))) ∨
      (reply.error? ≠ none ∧ trace.sent = request :: later.sent ∧ trace.result = later.result) := by
  intro trace later
  simp only [trace, later]
  rw [attempt]
  cases herror : reply.error? with
  | none => exact .inl ⟨rfl, fun _ => rfl⟩
  | some error =>
    dsimp only
    split
    · exact .inl ⟨rfl, fun h => by cases h⟩
    · cases hpause : pause? k with
      | none => exact .inl ⟨rfl, fun h => by cases h⟩
      | some pause => exact .inr ⟨by simp, rfl, rfl⟩

theorem attempt_sent (k : Nat) (replies : List Reply) :
    ∀ sent ∈ (attempt request path limit pause? k replies).sent, sent = request := by
  induction replies generalizing k with
  | nil =>
    rw [attempt]
    exact fun sent h => List.mem_singleton.1 h
  | cons reply rest ih =>
    rcases attempt_cons request path limit pause? k reply rest with ⟨hsent, -⟩ | ⟨-, hsent, -⟩
    · rw [hsent]
      exact fun sent h => List.mem_singleton.1 h
    · rw [hsent]
      exact List.forall_mem_cons.2 ⟨rfl, ih (k + 1)⟩

theorem attempt_sent_pos (k : Nat) (replies : List Reply) :
    0 < (attempt request path limit pause? k replies).sent.length := by
  cases replies with
  | nil => simp [attempt]
  | cons reply rest =>
    rcases attempt_cons request path limit pause? k reply rest with ⟨hsent, -⟩ | ⟨-, hsent, -⟩ <;>
      simp [hsent]

theorem attempt_answered (k : Nat) {replies : List Reply} {i : Nat} {reply : Reply}
    (hi : i < (attempt request path limit pause? k replies).sent.length)
    (hreply : replies[i]? = some reply) (hanswer : reply.error? = none) :
    (attempt request path limit pause? k replies).result = .ok (.ok reply) := by
  induction replies generalizing k i with
  | nil => simp at hreply
  | cons first rest ih =>
    rcases attempt_cons request path limit pause? k first rest with
      ⟨hsent, hresult⟩ | ⟨hfailed, hsent, hresult⟩
    · rw [hsent, List.length_singleton, Nat.lt_one_iff] at hi
      subst hi
      obtain rfl : first = reply := by simpa using hreply
      exact hresult hanswer
    · rw [hsent, List.length_cons] at hi
      cases i with
      | zero =>
        obtain rfl : first = reply := by simpa using hreply
        exact absurd hanswer hfailed
      | succ i =>
        rw [hresult]
        exact ih (k + 1) (Nat.lt_of_succ_lt_succ hi) (by simpa using hreply)

end Attempts

/-- A request is not sent at all, or in a series of attempts. -/
theorem send_cases (client : HttpClient) (request : Sent) (platform : Platform) :
    (client.send request platform).sent = [] ∨
      ∃ path limit, client.send request platform =
        attempt request path limit platform.pause? 1 client.replies := by
  unfold send
  cases client.attempts with
  | unusable => exact .inl rfl
  | count limit =>
    dsimp only
    split
    · exact .inl rfl
    · next parts _ => exact .inr ⟨parts.path, limit, rfl⟩

/-- A call sends nothing, or it makes attempts with its request and routes their end. -/
theorem call_cases (client : HttpClient) (call : HttpCall) (handlers : Handlers)
    (platform : Platform) :
    let trace := client.call call handlers platform
    trace.sent = [] ∨
      ∃ request path limit, client.request platform.digits call = .ok request ∧
        let series := attempt request path limit platform.pause? 1 client.replies
        trace.sent = series.sent ∧
          ∀ ending, series.result = .ok ending →
            let delivery := route call handlers (ending >>= decode platform call.method)
            trace.result = delivery.result ∧ trace.handed = delivery.handed := by
  intro trace
  simp only [trace]
  unfold HttpClient.call
  split
  · exact .inl rfl
  · next request hrequest =>
    rcases client.send_cases request platform with hnone | ⟨path, limit, hsend⟩
    · refine .inl ?_
      dsimp only
      split <;> exact hnone
    · refine .inr ⟨request, path, limit, hrequest, ?_⟩
      dsimp only
      rw [hsend]
      split
      · next failure hfailure =>
        refine ⟨rfl, fun ending hending => ?_⟩
        cases hfailure.symm.trans hending
      · next ending hresult =>
        refine ⟨rfl, fun other hother => ?_⟩
        cases hresult.symm.trans hother
        exact ⟨rfl, rfl⟩

theorem call_sent (client : HttpClient) (call : HttpCall) (handlers : Handlers)
    (platform : Platform) :
    ∀ sent ∈ (client.call call handlers platform).sent,
      client.request platform.digits call = .ok sent := by
  intro sent hsent
  rcases client.call_cases call handlers platform with
    hnone | ⟨request, path, limit, hrequest, hseries, -⟩
  · rw [hnone] at hsent
    cases hsent
  · rw [hseries] at hsent
    rw [attempt_sent request path limit _ 1 client.replies sent hsent]
    exact hrequest

/-- An answer without a failure is decoded and handed to the caller. -/
theorem call_answered (client : HttpClient) (call : HttpCall) (handlers : Handlers)
    (platform : Platform) {i : Nat} {reply : Reply}
    (hi : i < (client.call call handlers platform).sent.length)
    (hreply : client.replies[i]? = some reply) (hanswer : reply.error? = none) :
    let delivery := route call handlers (decode platform call.method reply)
    (client.call call handlers platform).result = delivery.result ∧
      (client.call call handlers platform).handed = delivery.handed := by
  rcases client.call_cases call handlers platform with
    hnone | ⟨request, path, limit, -, hseries, hend⟩
  · rw [hnone] at hi
    cases hi
  · rw [hseries] at hi
    exact hend _ (attempt_answered request path limit _ 1 hi hreply hanswer)

/-- A text is posted at least once if its URL can be split and attempts can be counted. -/
theorem post_sent_pos {client : HttpClient} {limit : Nat} (hlimit : client.attempts = .count limit)
    {path : String} {parts : Url} (hsplit : Url.split (client.url path).toList = .ok parts)
    (body : String) (handlers : Handlers) (platform : Platform) :
    0 < (client.call { method := "POST", path := .str path, body := .str body } handlers
      platform).sent.length := by
  have hwritable : HttpCall.Writable platform.digits
      { method := "POST", path := .str path, body := .str body } :=
    ⟨fun h => (by cases h), .inl ⟨body, rfl⟩⟩
  obtain ⟨request, hrequest⟩ := client.exists_request (.inl rfl) hwritable
  have hurl := (request_carries hrequest).url_eq
  have hseries := attempt_sent_pos request parts.path limit platform.pause? 1 client.replies
  simp only [HttpClient.call, hrequest, send, hlimit, hurl, hsplit]
  split <;> exact hseries

end SearchBuilder.HttpClient
