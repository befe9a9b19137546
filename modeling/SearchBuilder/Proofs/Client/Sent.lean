import Mathlib.Data.List.Forall2
import SearchBuilder.Client.Http
import SearchBuilder.Proofs.Json.Writing

/-!
# Requests of calls

What the request of a call must hold is said without the functions that make it (`Sent.Carries`):
the method, the URL, the query parameters as texts, the body as a text, the headers and what the
client is set to. The request that a call makes is such a request (`HttpClient.request_carries`),
and there is one unless a parameter or the body cannot be written (`HttpClient.exists_request`,
`HttpClient.request_unwritten`).
-/

namespace SearchBuilder

/-! ## What a request holds -/

/-- How the value of a query parameter is spelled: truth values in small letters, texts as they
stand, and all other values as messages show them. -/
inductive Json.SpelledAs : Json → String → Prop
  | true : SpelledAs (.bool .true) "true"
  | false : SpelledAs (.bool .false) "false"
  | text (s : String) : SpelledAs (.str s) s
  | foreign (shown written : String) : SpelledAs (.foreign shown written) written
  | shown {j : Json} : (∀ b, j ≠ .bool b) → (∀ s, j ≠ .str s) → (∀ s t, j ≠ .foreign s t) →
    SpelledAs j (String.ofList j.display)

/-- What is sent for query parameters: nothing if there are none, or else a text for each. -/
inductive Json.SentAsParams : Json → Json → Prop
  | none {params : Json} : params.isTruthy = false → SentAsParams params .null
  | some {members : Entries Json} {texts : Entries String} : members ≠ [] →
    List.Forall₂ (fun member text => text.1 = member.1 ∧ member.2.SpelledAs text.2) members texts →
    SentAsParams (.obj members) (.obj (texts.map fun text => (text.1, .str text.2)))

/-- What is sent for a body: nothing if there is none, a text as it stands, and the JSON text of
any other value. -/
inductive Json.SentAsData : Json → Json → Prop
  | none : SentAsData .null .null
  | text (s : String) : SentAsData (.str s) (.str s)
  | json {body : Json} : body ≠ .null → (∀ s, body ≠ .str s) → SentAsData body (.str body.spaced)

theorem Json.SentAsData.eq_text {s : String} {data : Json} (h : (Json.str s).SentAsData data) :
    data = .str s := by
  cases h with
  | text => rfl
  | json _ htext => exact absurd rfl (htext s)

/-- A request is that of a call on a client. -/
structure Sent.Carries (sent : Sent) (client : HttpClient) (method path : String)
    (params body : Json) : Prop where
  method : sent.method = method
  url : sent.url = client.baseUrl ++ path ∧ path.toList.head? = some '/' ∨
    sent.url = client.baseUrl ++ "/" ++ path ∧ path.toList.head? ≠ some '/'
  params : params.SentAsParams sent.params
  data : body.SentAsData sent.data
  headers : ∃ type : Entries Json,
    sent.headers = .obj (("User-Agent", .str "elastic-dsl/0.1") ::
      ("Accept", .str "application/json") :: type) ∧
    (body = .null ∧ type = [] ∨
      body ≠ .null ∧ type = [("Content-Type", .str "application/json")])
  timeout : sent.timeout = client.timeout
  auth : sent.auth = client.auth

theorem Sent.Carries.url_eq {sent : Sent} {client : HttpClient} {method path : String}
    {params body : Json} (h : sent.Carries client method path params body) :
    sent.url = client.url path := by
  unfold HttpClient.url
  rcases h.url with ⟨hurl, hslash⟩ | ⟨hurl, hslash⟩
  · rw [if_pos hslash, hurl]
  · rw [if_neg hslash, hurl]

/-- The parameters of a call can be shown, and its body is a text or can be written as JSON. -/
structure HttpCall.Writable (limit : DigitLimit) (call : HttpCall) : Prop where
  params : call.params.isTruthy = true → call.params.Writable limit none
  body : (∃ s, call.body = .str s) ∨ call.body.Writable limit (some .notJson)

namespace HttpClient

variable {limit : DigitLimit}

theorem spelledAs_paramText (value : Json) : value.SpelledAs (paramText value) := by
  cases value with
  | bool b => cases b <;> constructor
  | str s => exact .text s
  | foreign shown written => exact .foreign shown written
  | _ => exact .shown (fun _ h => by cases h) (fun _ h => by cases h) fun _ _ h => by cases h

/-! ## The request of a call -/

theorem paramTexts_sent {params texts : Json} (h : paramTexts limit params = .ok texts) :
    params.SentAsParams texts := by
  unfold paramTexts at h
  split at h
  · next hnone =>
    cases h
    exact .none (by simpa using hnone)
  · next hsome =>
    split at h
    · next members =>
      split at h
      · cases h
      · cases h
        have hne : members ≠ [] := by
          rintro rfl
          exact hsome rfl
        have hspelled : List.Forall₂
            (fun member text => text.1 = member.1 ∧ member.2.SpelledAs text.2) members
            (members.map fun member => (member.1, paramText member.2)) :=
          List.forall₂_map_right_iff.2 (List.forall₂_same.2 fun member _ =>
            ⟨rfl, spelledAs_paramText member.2⟩)
        have htexts := Json.SentAsParams.some hne hspelled
        rwa [List.map_map] at htexts
    · cases h

theorem dataText_sent {body data : Json} (h : dataText limit body = .ok data) :
    body.SentAsData data := by
  unfold dataText at h
  split at h
  · cases h
    exact .none
  · cases h
    exact .text _
  · next hnull htext =>
    cases hwrite : (Writing.spaced body).write limit with
    | error fault =>
      rw [hwrite] at h
      cases h
    | ok text =>
      rw [hwrite] at h
      cases h
      obtain ⟨-, rfl⟩ := Writing.write_eq_ok.1 hwrite
      exact .json hnull htext

/-- A request is made as `Sent.Carries` says. -/
theorem request_carries {client : HttpClient} {method path : String} {params body : Json}
    {sent : Sent}
    (h : client.request limit { method, path := .str path, params, body } = .ok sent) :
    sent.Carries client method path params body := by
  unfold request at h
  cases hparams : paramTexts limit params with
  | error failure =>
    rw [hparams] at h
    cases h
  | ok texts =>
    cases hdata : dataText limit body with
    | error failure =>
      rw [hparams, hdata] at h
      cases h
    | ok data =>
      rw [hparams, hdata] at h
      cases h
      have hsent := dataText_sent hdata
      refine ⟨rfl, ?_, paramTexts_sent hparams, hsent, ?_, rfl, rfl⟩
      · by_cases hslash : path.toList.head? = some '/'
        · exact .inl ⟨if_pos hslash, hslash⟩
        · exact .inr ⟨if_neg hslash, hslash⟩
      · cases hsent with
        | none => exact ⟨[], rfl, .inl ⟨rfl, rfl⟩⟩
        | text s => exact ⟨_, rfl, .inr ⟨Json.noConfusion, rfl⟩⟩
        | json hnull htext => exact ⟨_, rfl, .inr ⟨hnull, rfl⟩⟩

/-- Parameters that are an object, or count as missing, are refused only if they cannot be shown. -/
theorem paramTexts_cases (limit : DigitLimit) {params : Json}
    (h : params.isTruthy = false ∨ ∃ members, params = .obj members) :
    ((params.isTruthy = true → params.Writable limit none) ∧
        ∃ texts, paramTexts limit params = .ok texts) ∨
      (params.isTruthy = true ∧ ¬ params.Writable limit none ∧
        ∃ fault, paramTexts limit params = .error (.unwritten fault)) := by
  unfold paramTexts
  cases htruthy : params.isTruthy with
  | false => exact .inl ⟨fun h => (by cases h), .null, rfl⟩
  | true =>
    obtain ⟨members, rfl⟩ := h.resolve_left (by simp [htruthy])
    cases hfault : Json.membersFault? limit none members with
    | none => exact .inl ⟨fun _ => hfault, _, by simp [hfault]; rfl⟩
    | some fault =>
      refine .inr ⟨rfl, fun hwritable => ?_, fault, by simp [hfault]⟩
      cases hfault.symm.trans hwritable

/-- A body is refused only if it is no text and cannot be written. -/
theorem dataText_cases (limit : DigitLimit) (body : Json) :
    (((∃ s, body = .str s) ∨ body.Writable limit (some .notJson)) ∧
        ∃ data, dataText limit body = .ok data) ∨
      (¬ ((∃ s, body = .str s) ∨ body.Writable limit (some .notJson)) ∧
        ∃ fault, dataText limit body = .error (.unwritten fault)) := by
  unfold dataText
  split
  · exact .inl ⟨.inr rfl, _, rfl⟩
  · exact .inl ⟨.inl ⟨_, rfl⟩, _, rfl⟩
  · next hnull htext =>
    cases hwrite : (Writing.spaced body).write limit with
    | ok text =>
      obtain ⟨hfault, -⟩ := Writing.write_eq_ok.1 hwrite
      exact .inl ⟨.inr ((Writing.fault?_spaced body).symm.trans hfault), _, rfl⟩
    | error fault =>
      have hfault := (Writing.fault?_spaced body).symm.trans (Writing.write_eq_error.1 hwrite)
      refine .inr ⟨?_, fault, rfl⟩
      rintro (⟨s, rfl⟩ | hwritable)
      · exact htext s rfl
      · cases hfault.symm.trans hwritable

variable (client : HttpClient) {method path : String} {params body : Json}
  (hparams : params.isTruthy = false ∨ ∃ members, params = .obj members)
include hparams

/-- A call makes its request if that can be written. -/
theorem exists_request
    (h : HttpCall.Writable limit { method, path := .str path, params, body }) :
    ∃ sent, client.request limit { method, path := .str path, params, body } = .ok sent := by
  obtain ⟨-, texts, htexts⟩ | ⟨htruthy, hno, -⟩ := paramTexts_cases limit hparams
  · obtain ⟨-, data, hdata⟩ | ⟨hno, -⟩ := dataText_cases limit body
    · unfold request
      simp only [htexts, hdata]
      exact ⟨_, rfl⟩
    · exact absurd h.body hno
  · exact absurd (h.params htruthy) hno

/-- A call fails before its request if that cannot be written. -/
theorem request_unwritten
    (h : ¬ HttpCall.Writable limit { method, path := .str path, params, body }) :
    ∃ fault, client.request limit { method, path := .str path, params, body } =
      .error (.unwritten fault) := by
  obtain ⟨hshown, texts, htexts⟩ | ⟨-, -, fault, hfault⟩ :=
    paramTexts_cases limit hparams
  · obtain ⟨hbody, -⟩ | ⟨-, fault, hfault⟩ := dataText_cases limit body
    · exact absurd ⟨hshown, hbody⟩ h
    · unfold request
      simp only [htexts, hfault]
      exact ⟨fault, rfl⟩
  · unfold request
    simp only [hfault]
    exact ⟨fault, rfl⟩

end HttpClient

end SearchBuilder
