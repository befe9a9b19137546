import SearchBuilder.Client.Http
import SearchBuilder.Proofs.Config.Settings
import SearchBuilder.Proofs.Text.Split
import Mathlib.Data.List.TakeDrop

/-!
# Servers named without a scheme

A server may be named by its host alone, with a port and a base path behind it if need be. The
base URL that is made of such a text is cut into its parts again, and so is the URL of every path on
that server. They are the parts that were written, with 80 for a port that is missing, exactly if
the text names a port or is a host and nothing else: otherwise the text `:80` stands at the end of
the base URL, where it is a piece of the path or a second colon (`HostAddress.reaches_iff`).
-/

namespace SearchBuilder

namespace Url

/-- The characters of a text that count in a URL: tabs and line ends do not. -/
def unbroken (s : List Char) : List Char := s.filter fun c => !(c = '\t' || c = '\r' || c = '\n')

/-- The path of what stands behind an authority, without query and fragment. -/
def pathPart (s : List Char) : List Char := beforeFirst '?' (beforeFirst '#' (unbroken s))

/-- Nothing, or a text that starts with a slash. -/
def StartsPath (s : List Char) : Prop := ∀ c ∈ s.head?, c = '/'

/-- What stands behind the brackets of a host, or the whole host if it has none. -/
def outside (host : List Char) : List Char :=
  if host.contains '[' then afterFirst ']' (afterFirst '[' host) else host

/-- An authority that a URL may have. -/
structure IsAuthority (authority : List Char) : Prop where
  brackets : checkBrackets authority = .ok ()
  unfolded : authority.any foldedMarks.contains = false

variable {s front rest : List Char}

@[simp] theorem unbroken_append (front rest : List Char) :
    unbroken (front ++ rest) = unbroken front ++ unbroken rest :=
  List.filter_append ..

theorem mem_of_mem_unbroken {c : Char} (h : c ∈ unbroken s) : c ∈ s :=
  List.mem_of_mem_filter h

theorem startsPath_nil : StartsPath [] := by
  rintro c hc
  cases hc

theorem startsPath_cons (s : List Char) : StartsPath ('/' :: s) :=
  fun _ hc => (Option.some.inj hc).symm

theorem StartsPath.append (hfront : StartsPath front) (hrest : StartsPath rest) :
    StartsPath (front ++ rest) := by
  cases front with
  | nil => exact hrest
  | cons c front => exact hfront

theorem StartsPath.unbroken (h : StartsPath s) : StartsPath (unbroken s) := by
  cases s with
  | nil => exact h
  | cons c s =>
    obtain rfl : c = '/' := h c rfl
    exact h

theorem StartsPath.trimSlashes (h : StartsPath s) : StartsPath (trimSlashes s) := by
  obtain ⟨dropped, hs⟩ : SearchBuilder.trimSlashes s <+: s := List.rdropWhile_prefix (· = '/') s
  intro c hc
  refine h c ?_
  rw [← hs, List.head?_append, Option.mem_def.1 hc]
  rfl

theorem pathPart_append (hquery : '?' ∉ front) (hfragment : '#' ∉ front) (rest : List Char) :
    pathPart (front ++ rest) = unbroken front ++ pathPart rest := by
  unfold pathPart
  rw [unbroken_append, beforeFirst_append_left fun h => hfragment (mem_of_mem_unbroken h),
    beforeFirst_append_left fun h => hquery (mem_of_mem_unbroken h)]

/-! ## Splitting at the authority -/

/-- A URL with the scheme `http` is accepted if its authority is. -/
theorem split_http (hfront : ∀ c ∈ front, c ∉ ['/', '?', '#']) (hrest : StartsPath rest) :
    split ("http://".toList ++ (front ++ rest)) = do
      checkBrackets (unbroken front)
      if (unbroken front).any foldedMarks.contains then
        throw (.foldedMark (String.ofList (unbroken front)))
      return { scheme := "http".toList, authority := unbroken front, path := pathPart rest } := by
  have hspan : (unbroken (front ++ rest)).span (fun c => !(c = '/' || c = '?' || c = '#')) =
      (unbroken front, unbroken rest) := by
    have hkept : ∀ c ∈ unbroken front, (!(c = '/' || c = '?' || c = '#')) = true := by
      intro c hc
      simpa [and_assoc] using hfront c (mem_of_mem_unbroken hc)
    rw [unbroken_append, List.span_eq_takeWhile_dropWhile, List.takeWhile_append_of_pos hkept,
      List.dropWhile_append_of_pos hkept]
    cases hunbroken : unbroken rest with
    | nil => simp
    | cons c tail =>
      obtain rfl : c = '/' := hrest.unbroken c (by rw [hunbroken]; rfl)
      simp
  -- The scheme is read off by computation, as the text starts with known characters.
  change (do
    let cut := (unbroken (front ++ rest)).span fun c => !(c = '/' || c = '?' || c = '#')
    checkBrackets cut.1
    if cut.1.any foldedMarks.contains then throw (UrlFlaw.foldedMark (String.ofList cut.1))
    return Url.mk "http".toList cut.1 (beforeFirst '?' (beforeFirst '#' cut.2))) = _
  rw [hspan]
  rfl

/-- A URL with the scheme `http` is split at an authority that is accepted. -/
theorem split_of_isAuthority (hfront : ∀ c ∈ front, c ∉ ['/', '?', '#']) (hrest : StartsPath rest)
    (h : IsAuthority (unbroken front)) :
    split ("http://".toList ++ (front ++ rest)) =
      .ok { scheme := "http".toList, authority := unbroken front, path := pathPart rest } := by
  rw [split_http hfront hrest, h.brackets, h.unfolded]
  rfl

/-- A URL with the scheme `http` is refused if its authority is. -/
theorem isAuthority_of_split (hfront : ∀ c ∈ front, c ∉ ['/', '?', '#']) (hrest : StartsPath rest)
    {url : Url} (h : split ("http://".toList ++ (front ++ rest)) = .ok url) :
    IsAuthority (unbroken front) := by
  rw [split_http hfront hrest] at h
  cases hbrackets : checkBrackets (unbroken front) with
  | error flaw =>
    rw [hbrackets] at h
    cases h
  | ok _ =>
    rw [hbrackets] at h
    cases hfolded : (unbroken front).any foldedMarks.contains with
    | true =>
      rw [hfolded] at h
      cases h
    | false => exact ⟨hbrackets, hfolded⟩

/-! ## Hosts and ports -/

/-- A host: if it has a colon, then in brackets. -/
inductive IsHost : List Char → Prop
  | name {host : List Char} (hopen : '[' ∉ host) (hcolon : ':' ∉ host) : IsHost host
  | boxed {front address behind : List Char} (hopen : '[' ∉ front) (hclose : ']' ∉ address)
      (hcolon : ':' ∉ behind) : IsHost (front ++ '[' :: (address ++ ']' :: behind))

variable {host text : List Char}

theorem IsHost.unbroken (h : IsHost host) : IsHost (unbroken host) := by
  cases h with
  | name hopen hcolon =>
    exact .name (fun h => hopen (mem_of_mem_unbroken h)) fun h => hcolon (mem_of_mem_unbroken h)
  | @boxed front address behind hopen hclose hcolon =>
    have hparts : Url.unbroken (front ++ '[' :: (address ++ ']' :: behind)) =
        Url.unbroken front ++ '[' :: (Url.unbroken address ++ ']' :: Url.unbroken behind) := by
      simp [Url.unbroken]
    rw [hparts]
    exact .boxed (fun h => hopen (mem_of_mem_unbroken h))
      (fun h => hclose (mem_of_mem_unbroken h)) fun h => hcolon (mem_of_mem_unbroken h)

/-- What follows a host is outside its brackets. -/
theorem IsHost.outside_append (h : IsHost host) (htext : '[' ∉ text) :
    ∃ behind, ':' ∉ behind ∧ outside (host ++ text) = behind ++ text := by
  cases h with
  | name hopen hcolon =>
    have hnone : (host ++ text).contains '[' = false := by simp [hopen, htext]
    exact ⟨host, hcolon, by rw [outside, hnone]; rfl⟩
  | @boxed front address behind hopen hclose hcolon =>
    refine ⟨behind, hcolon, ?_⟩
    have hopened : (front ++ '[' :: (address ++ ']' :: behind) ++ text).contains '[' = true := by
      simp
    rw [outside, hopened, if_pos rfl, List.append_assoc, List.cons_append, List.append_assoc,
      List.cons_append, afterFirst_append hopen, afterFirst_append hclose]

/-- Brackets are checked in the host alone, if what follows has none. -/
theorem IsHost.checkBrackets_append (h : IsHost host) (hopen : '[' ∉ text) (hclose : ']' ∉ text) :
    checkBrackets (host ++ text) = checkBrackets host := by
  have hopened : (host ++ text).contains '[' = host.contains '[' := by simp [hopen]
  have hclosed : (host ++ text).contains ']' = host.contains ']' := by simp [hclose]
  unfold checkBrackets
  rw [hopened, hclosed]
  cases h with
  | name hnone hcolon =>
    have hno : host.contains '[' = false := by simpa using hnone
    rw [hno]
    rfl
  | @boxed front address behind hfront haddress hcolon =>
    have hinside (tail : List Char) : beforeFirst ']' (afterFirst '[' (front ++ '[' ::
        (address ++ ']' :: tail))) = address := by
      rw [afterFirst_append hfront, beforeFirst_append haddress]
    have hwhole : front ++ '[' :: (address ++ ']' :: behind) ++ text =
        front ++ '[' :: (address ++ ']' :: (behind ++ text)) := by simp
    rw [hwhole, hinside, hinside]

/-- An authority without a user name has the port that stands outside its brackets. -/
theorem portText_eq {url : Url} (h : '@' ∉ url.authority) :
    url.portText = afterFirst ':' (outside url.authority) := by
  unfold portText outside
  simp only [afterLast_of_not_mem h]
  split <;> rfl

/-- The port of a host is what stands behind its colon. -/
theorem IsHost.portText_append {url : Url} (h : IsHost host)
    (hurl : url.authority = host ++ ':' :: text) (huser : '@' ∉ url.authority)
    (hopen : '[' ∉ text) : url.portText = text := by
  have hcolon : '[' ∉ ':' :: text := by simp [hopen]
  obtain ⟨behind, hbehind, houtside⟩ := h.outside_append hcolon
  rw [portText_eq huser, hurl, houtside, afterFirst_append hbehind]

/-- A host alone has no port behind it. -/
theorem IsHost.portText_alone {url : Url} (h : IsHost host) (hurl : url.authority = host)
    (huser : '@' ∉ url.authority) : url.portText = [] := by
  obtain ⟨behind, hbehind, houtside⟩ := h.outside_append List.not_mem_nil
  rw [List.append_nil, List.append_nil] at houtside
  rw [portText_eq huser, hurl, houtside, afterFirst_of_not_mem hbehind]

/-- The default port may stand behind an authority that a URL may have. -/
theorem IsHost.isAuthority_append (h : IsHost host) (hopen : '[' ∉ text) (hclose : ']' ∉ text)
    (hauthority : IsAuthority (host ++ text)) : IsAuthority (host ++ text ++ ":80".toList) := by
  refine ⟨?_, ?_⟩
  · rw [List.append_assoc, h.checkBrackets_append (by simp [hopen]) (by simp [hclose]),
      ← h.checkBrackets_append hopen hclose]
    exact hauthority.brackets
  · rw [List.any_append, hauthority.unfolded]
    rfl

theorem port?_of_portText {url : Url} (h : url.portText = []) : url.port? = .ok none := by
  rw [port?, h]
  rfl

/-- A port that is named is read as a decimal number. -/
theorem port?_eq_some {url : Url} {port : Option Nat} (hport : url.port? = .ok port)
    (htext : url.portText ≠ []) : port = some (Nat.ofDigitChars 10 url.portText 0) := by
  have hfold (text : List Char) : text.foldl (fun n c => n * 10 + (c.toNat - '0'.toNat)) 0 =
      Nat.ofDigitChars 10 text 0 := by
    unfold Nat.ofDigitChars
    congr 1
    funext n c
    rw [Nat.mul_comm]
  have hne : url.portText.isEmpty = false := by simpa using htext
  rw [port?, hne] at hport
  simp only [Bool.false_eq_true, if_false] at hport
  split at hport
  · split at hport
    · rw [← hfold]
      exact (Except.ok.inj hport).symm
    · cases hport
  · cases hport

end Url

/-! ## Addresses -/

/-- A server named without a scheme: a host, the text behind its colon if there is one, and a base
path. -/
structure HostAddress where
  host : List Char
  port : Option (List Char)
  base : List Char

namespace HostAddress

open Url

/-- The host and its port as they are written. -/
def authority (a : HostAddress) : List Char :=
  a.host ++ (a.port.map (':' :: ·)).getD []

def text (a : HostAddress) : List Char := a.authority ++ a.base

/-- An address of the form `host[:port][/base]`, without scheme, user name, query and fragment. -/
structure WellFormed (a : HostAddress) : Prop where
  host : IsHost a.host
  host_marks : ∀ c ∈ a.host, c ∉ ['/', '?', '#', '@']
  port_marks : ∀ port ∈ a.port, ∀ c ∈ port, c ∉ ['/', '?', '#', '@', '[', ']']
  base : StartsPath a.base
  base_marks : ∀ c ∈ a.base, c ∉ ['?', '#']
  no_scheme : occursIn "://".toList a.text = false

/-- The digits of the port, if one is named. -/
def digits (a : HostAddress) : List Char := unbroken (a.port.getD [])

/-- The port of the server: the one that is named, or else 80. -/
def portNumber (a : HostAddress) : Nat :=
  if a.digits = [] then 80 else Nat.ofDigitChars 10 a.digits 0

/-- The base path of the server, without slashes at its end. -/
def basePath (a : HostAddress) : List Char := unbroken (trimSlashes a.base)

/-- Whether a URL is that of a path on the server: plain HTTP to its host and port, with the path
behind its base path. -/
def Reaches (a : HostAddress) (text path : List Char) : Prop :=
  ∃ url, split text = .ok url ∧ url.scheme = "http".toList ∧
    url.authority = unbroken a.host ++ ':' :: url.portText ∧
    url.port? = .ok (some a.portNumber) ∧ url.path = a.basePath ++ path

/-- Whether the text names a port, or is a host and at most slashes. -/
def KeepsItsParts (a : HostAddress) : Prop :=
  a.digits ≠ [] ∨ a.port = none ∧ trimSlashes a.base = []

variable {a : HostAddress}

namespace WellFormed

/-- The authority of a well-formed address has no mark that ends it. -/
theorem authority_marks (h : a.WellFormed) : ∀ c ∈ a.authority, c ∉ ['/', '?', '#', '@'] := by
  intro c hc
  unfold authority at hc
  cases hport : a.port with
  | none =>
    rw [hport] at hc
    exact h.host_marks c (by simpa using hc)
  | some port =>
    rw [hport] at hc
    rcases List.mem_append.1 hc with hc | hc
    · exact h.host_marks c hc
    · rcases List.mem_cons.1 hc with rfl | hc
      · decide
      · have hmarks := h.port_marks port hport c hc
        simp only [List.mem_cons, not_or] at hmarks ⊢
        tauto

end WellFormed

/-- The authority as URLs have it. -/
theorem unbroken_authority (a : HostAddress) :
    unbroken a.authority = unbroken a.host ++ (a.port.map fun _ => ':' :: a.digits).getD [] := by
  unfold authority digits
  rw [unbroken_append]
  cases a.port <;> rfl

theorem WellFormed.digits_marks (h : a.WellFormed) : ∀ c ∈ a.digits, c ∉ ['[', ']', '@'] := by
  intro c hc
  have hmem : c ∈ a.port.getD [] := mem_of_mem_unbroken hc
  cases hport : a.port with
  | none =>
    rw [hport] at hmem
    cases hmem
  | some port =>
    rw [hport] at hmem
    have hmarks := h.port_marks port hport c hmem
    simp only [List.mem_cons, not_or] at hmarks ⊢
    tauto

theorem WellFormed.unbroken_marks (h : a.WellFormed) :
    ∀ c ∈ unbroken a.authority, c ∉ ['/', '?', '#', '@'] :=
  fun c hc => h.authority_marks c (mem_of_mem_unbroken hc)

/-- What stands behind the host of a well-formed address are its digits. -/
theorem WellFormed.portText_eq (h : a.WellFormed) {url : Url}
    (hurl : url.authority = unbroken a.authority) : url.portText = a.digits := by
  have huser : '@' ∉ url.authority := by
    rw [hurl]
    exact fun hmem => h.unbroken_marks '@' hmem (by decide)
  rw [unbroken_authority] at hurl
  cases hport : a.port with
  | none =>
    rw [hport] at hurl
    rw [h.host.unbroken.portText_alone (hurl.trans (List.append_nil _)) huser, digits, hport]
    rfl
  | some port =>
    rw [hport] at hurl
    exact h.host.unbroken.portText_append hurl huser fun hmem => h.digits_marks _ hmem (by decide)

/-! ## The base URL -/

/-- What is put at the end of the base URL of an address. -/
def defaultPort (a : HostAddress) : List Char := if a.digits = [] then ":80".toList else []

theorem WellFormed.trimSlashes_text (h : a.WellFormed) :
    trimSlashes a.text = a.authority ++ trimSlashes a.base := by
  refine trimRight_append_of_trimmed (trimRight_of_forall fun c hc => ?_)
  have hmarks := h.authority_marks c hc
  simp only [List.mem_cons, not_or] at hmarks
  simpa using hmarks.1

theorem WellFormed.authority_ne_divider (h : a.WellFormed) :
    ∀ c ∈ a.authority, c ∉ ['/', '?', '#'] := by
  intro c hc
  have hmarks := h.authority_marks c hc
  simp only [List.mem_cons, not_or] at hmarks ⊢
  tauto

/-- The port that the parts of an accepted address have. -/
def namedPort (a : HostAddress) : Option Nat := if a.digits = [] then none else some a.portNumber

/-- The port of a well-formed address is the one that it names. -/
theorem WellFormed.port?_ok (h : a.WellFormed) {parts : Url} {port : Option Nat}
    (hparts : parts.authority = unbroken a.authority) (hport : parts.port? = .ok port) :
    port = a.namedPort := by
  have htext := h.portText_eq hparts
  unfold namedPort portNumber
  by_cases hdigits : a.digits = []
  · rw [if_pos hdigits]
    rw [port?_of_portText (htext.trans hdigits)] at hport
    exact (Except.ok.inj hport).symm
  · rw [if_neg hdigits, if_neg hdigits, port?_eq_some hport (htext ▸ hdigits), htext]

/-- An address is accepted if a URL may have its authority and its port is a number. -/
structure Accepted (a : HostAddress) : Prop where
  authority : IsAuthority (unbroken a.authority)
  port : ∀ parts : Url, parts.authority = unbroken a.authority → parts.port? = .ok a.namedPort

/-- An address that is taken is accepted and gets the usual port if it names none. -/
theorem WellFormed.hostUrl_ok (h : a.WellFormed) {url : List Char}
    (hurl : hostUrl a.text = .ok url) :
    a.Accepted ∧ url = "http://".toList ++ trimSlashes a.text ++ a.defaultPort := by
  obtain ⟨parts, hsplit, hurl⟩ := exists_of_bind_eq_ok hurl
  obtain ⟨port, hport, hurl⟩ := exists_of_bind_eq_ok hurl
  replace hsplit := eq_ok_of_mapError hsplit
  replace hport := eq_ok_of_mapError hport
  rw [h.trimSlashes_text] at hsplit
  have hauthority := isAuthority_of_split h.authority_ne_divider h.base.trimSlashes hsplit
  rw [split_of_isAuthority h.authority_ne_divider h.base.trimSlashes hauthority] at hsplit
  obtain rfl := Except.ok.inj hsplit
  obtain rfl := h.port?_ok rfl hport
  refine ⟨⟨hauthority, fun parts hparts => ?_⟩, ?_⟩
  · rw [← hport]
    unfold Url.port? Url.portText
    rw [hparts]
  · rw [← Except.ok.inj hurl]
    unfold defaultPort namedPort
    split
    · rfl
    · exact (List.append_nil _).symm

theorem exists_port (h : a.digits ≠ []) : ∃ port, a.port = some port := by
  cases hport : a.port with
  | none =>
    unfold digits at h
    rw [hport] at h
    exact absurd rfl h
  | some port => exact ⟨port, rfl⟩

theorem WellFormed.trimSlashes_url (h : a.WellFormed) :
    trimSlashes ("http://".toList ++ trimSlashes a.text ++ a.defaultPort) =
      "http://".toList ++ (a.authority ++ (trimSlashes a.base ++ a.defaultPort)) := by
  unfold defaultPort
  split
  · have hdefault : trimRight (· = '/') ":80".toList = ":80".toList := by decide
    have hne : trimRight (· = '/') ":80".toList ≠ [] := by decide
    rw [trimSlashes, trimRight_append _ hne, hdefault, h.trimSlashes_text]
    simp only [List.append_assoc]
  · next hdigits =>
    obtain ⟨port, hport⟩ := exists_port hdigits
    have htrimmed : trimRight (· = '/') (trimSlashes a.text) = trimSlashes a.text :=
      List.rdropWhile_idempotent ..
    have hne : trimRight (· = '/') (trimSlashes a.text) ≠ [] := by
      rw [htrimmed, h.trimSlashes_text, authority, hport]
      simp
    rw [List.append_nil, List.append_nil, ← h.trimSlashes_text]
    exact (trimRight_append _ hne).trans (congrArg _ htrimmed)

/-- The base URL is the text without slashes at its end and, unless it names a port, the default
port behind it. -/
theorem WellFormed.baseUrl_ok (h : a.WellFormed) {base : String}
    (hbase : baseUrl (.str (String.ofList a.text)) .null = .ok base) :
    a.Accepted ∧
      base.toList = "http://".toList ++ (a.authority ++ (trimSlashes a.base ++ a.defaultPort)) := by
  obtain ⟨counts, hcounts, hbase⟩ := exists_of_bind_eq_ok hbase
  obtain rfl := Except.ok.inj hcounts
  simp only [Bool.false_eq_true, if_false, String.toList_ofList, h.no_scheme] at hbase
  obtain ⟨url, hhost, hbase⟩ := exists_of_bind_eq_ok hbase
  obtain ⟨haccepted, rfl⟩ := h.hostUrl_ok hhost
  rw [← Except.ok.inj hbase, String.toList_ofList, h.trimSlashes_url]
  exact ⟨haccepted, rfl⟩

/-! ## The parts read back -/

theorem WellFormed.trimmed_marks (h : a.WellFormed) : '?' ∉ trimSlashes a.base ∧
    '#' ∉ trimSlashes a.base := by
  have hbegins : trimSlashes a.base <+: a.base := List.rdropWhile_prefix ..
  exact ⟨fun hmem => h.base_marks _ (hbegins.subset hmem) (by decide),
    fun hmem => h.base_marks _ (hbegins.subset hmem) (by decide)⟩

/-- A URL whose authority is the address's own has the path that stands behind it. -/
theorem WellFormed.split_authority (h : a.WellFormed) (haccepted : a.Accepted)
    {added rest : List Char} (hquery : '?' ∉ added) (hfragment : '#' ∉ added)
    (hstarts : StartsPath (trimSlashes a.base ++ (added ++ rest))) :
    ∃ url, split ("http://".toList ++ (a.authority ++ (trimSlashes a.base ++ (added ++ rest)))) =
        .ok url ∧
      url.scheme = "http".toList ∧ url.authority = unbroken a.authority ∧
      url.path = a.basePath ++ (unbroken added ++ pathPart rest) := by
  refine ⟨_, split_of_isAuthority h.authority_ne_divider hstarts haccepted.authority, rfl, rfl, ?_⟩
  rw [← pathPart_append hquery hfragment]
  exact pathPart_append h.trimmed_marks.1 h.trimmed_marks.2 _

/-- An authority stays one with the usual port behind it. -/
theorem WellFormed.isAuthority_default (h : a.WellFormed) (haccepted : a.Accepted) :
    IsAuthority (unbroken a.authority ++ ":80".toList) := by
  have hauthority := haccepted.authority
  rw [unbroken_authority] at hauthority ⊢
  refine h.host.unbroken.isAuthority_append ?_ ?_ hauthority
  all_goals
    cases a.port with
    | none => exact List.not_mem_nil
    | some port =>
      intro hmem
      rcases List.mem_cons.1 hmem with hcolon | hdigit
      · exact absurd hcolon (by decide)
      · exact h.digits_marks _ hdigit (by decide)

/-- A URL of an address without a base path has the default port in its authority. -/
theorem WellFormed.split_default (h : a.WellFormed) (haccepted : a.Accepted) {rest : List Char}
    (hstarts : StartsPath rest) :
    ∃ url, split ("http://".toList ++ (a.authority ++ ":80".toList ++ rest)) = .ok url ∧
      url.scheme = "http".toList ∧ url.authority = unbroken a.authority ++ ":80".toList ∧
      url.path = pathPart rest := by
  have hmarks : ∀ c ∈ a.authority ++ ":80".toList, c ∉ ['/', '?', '#'] := by
    rw [List.forall_mem_append]
    exact ⟨h.authority_ne_divider, by simp⟩
  have hunbroken : unbroken (a.authority ++ ":80".toList) = unbroken a.authority ++ ":80".toList :=
    unbroken_append ..
  have hauthority : IsAuthority (unbroken (a.authority ++ ":80".toList)) :=
    hunbroken ▸ h.isAuthority_default haccepted
  exact ⟨_, split_of_isAuthority hmarks hstarts hauthority, rfl, hunbroken, rfl⟩

/-- The default port is the port of a host alone. -/
theorem WellFormed.portText_alone (h : a.WellFormed) {url : Url} (hport : a.port = none)
    (hurl : url.authority = unbroken a.authority ++ ":80".toList) :
    url.authority = unbroken a.host ++ ':' :: "80".toList ∧ url.portText = "80".toList := by
  have huser : '@' ∉ url.authority := by
    rw [hurl, List.mem_append, not_or]
    exact ⟨fun hmem => h.unbroken_marks '@' hmem (by decide), by decide⟩
  rw [unbroken_authority, hport, List.append_assoc] at hurl
  exact ⟨hurl, h.host.unbroken.portText_append hurl huser (by decide)⟩

/-- Behind a colon without a port the default port is no number. -/
theorem WellFormed.portText_unnamed (h : a.WellFormed) {url : Url} {port : List Char}
    (hport : a.port = some port) (hdigits : a.digits = [])
    (hurl : url.authority = unbroken a.authority ++ ":80".toList) :
    url.authority = unbroken a.host ++ ':' :: ":80".toList ∧ url.portText = ":80".toList := by
  have huser : '@' ∉ url.authority := by
    rw [hurl, List.mem_append, not_or]
    exact ⟨fun hmem => h.unbroken_marks '@' hmem (by decide), by decide⟩
  rw [unbroken_authority, hport, hdigits, List.append_assoc] at hurl
  exact ⟨hurl, h.host.unbroken.portText_append hurl huser (by decide)⟩

/-! ### The four kinds of addresses -/

section Kinds

variable {rest : List Char}

/-- The base URL of an address with a text behind it. -/
def urlOf (a : HostAddress) (rest : List Char) : List Char :=
  "http://".toList ++ (a.authority ++ (trimSlashes a.base ++ a.defaultPort)) ++ rest

/-- An address that names a port reaches it. -/
theorem WellFormed.reaches_named (h : a.WellFormed) (haccepted : a.Accepted)
    (hdigits : a.digits ≠ []) (hrest : StartsPath rest) :
    a.Reaches (a.urlOf rest) (pathPart rest) := by
  obtain ⟨url, hsplit, hscheme, hauthority, hpath⟩ := h.split_authority haccepted
    (List.not_mem_nil) (List.not_mem_nil) (h.base.trimSlashes.append hrest)
  have htext : a.urlOf rest =
      "http://".toList ++ (a.authority ++ (trimSlashes a.base ++ ([] ++ rest))) := by
    unfold urlOf
    rw [defaultPort, if_neg hdigits, List.append_nil, List.nil_append]
    simp only [List.append_assoc]
  obtain ⟨port, hport⟩ := exists_port hdigits
  refine ⟨url, ?_, hscheme, ?_, ?_, hpath⟩
  · rw [htext, hsplit]
  · rw [h.portText_eq hauthority, hauthority, unbroken_authority, hport]
    rfl
  · rw [haccepted.port url hauthority, namedPort, if_neg hdigits]

/-- A host alone is reached at the usual port. -/
theorem WellFormed.reaches_alone (h : a.WellFormed) (haccepted : a.Accepted)
    (hport : a.port = none) (hbase : trimSlashes a.base = []) (hrest : StartsPath rest) :
    a.Reaches (a.urlOf rest) (pathPart rest) := by
  obtain ⟨url, hsplit, hscheme, hauthority, hpath⟩ := h.split_default haccepted hrest
  have hdigits : a.digits = [] := by
    rw [digits, hport]
    rfl
  have htext : a.urlOf rest = "http://".toList ++ (a.authority ++ ":80".toList ++ rest) := by
    unfold urlOf
    rw [defaultPort, if_pos hdigits, hbase, List.nil_append]
    simp only [List.append_assoc]
  obtain ⟨hhost, hportText⟩ := h.portText_alone hport hauthority
  refine ⟨url, ?_, hscheme, ?_, ?_, ?_⟩
  · rw [htext, hsplit]
  · rw [hportText, hhost]
  · rw [Url.port?, hportText, portNumber, if_pos hdigits]
    rfl
  · rw [hpath, basePath, hbase]
    rfl

/-- Behind a base path the default port is a piece of the path. -/
theorem WellFormed.split_based (h : a.WellFormed) (haccepted : a.Accepted) (hdigits : a.digits = [])
    (hbase : trimSlashes a.base ≠ []) :
    ∃ url, split (a.urlOf rest) = .ok url ∧ url.authority = unbroken a.authority ∧
      url.port? = .ok none ∧ url.path = a.basePath ++ (":80".toList ++ pathPart rest) := by
  have hstarts : StartsPath (trimSlashes a.base ++ (":80".toList ++ rest)) := by
    intro c hc
    refine h.base.trimSlashes c ?_
    rwa [List.head?_append_of_ne_nil _ hbase] at hc
  obtain ⟨url, hsplit, -, hauthority, hpath⟩ :=
    h.split_authority haccepted (by decide) (by decide) hstarts
  have htext : a.urlOf rest =
      "http://".toList ++ (a.authority ++ (trimSlashes a.base ++ (":80".toList ++ rest))) := by
    unfold urlOf
    rw [defaultPort, if_pos hdigits]
    simp only [List.append_assoc]
  refine ⟨url, ?_, hauthority, ?_, hpath⟩
  · rw [htext, hsplit]
  · rw [haccepted.port url hauthority, namedPort, if_pos hdigits]

/-- A colon without digits leaves a port that cannot be read. -/
theorem WellFormed.split_unnamed (h : a.WellFormed) (haccepted : a.Accepted)
    (hport : a.port ≠ none) (hdigits : a.digits = []) (hbase : trimSlashes a.base = [])
    (hrest : StartsPath rest) :
    ∃ url, split (a.urlOf rest) = .ok url ∧ url.authority = unbroken a.host ++ "::80".toList ∧
      url.port? = .error (.badPort ":80") := by
  obtain ⟨port, hsome⟩ := Option.ne_none_iff_exists'.1 hport
  obtain ⟨url, hsplit, -, hauthority, -⟩ := h.split_default haccepted hrest
  have htext : a.urlOf rest = "http://".toList ++ (a.authority ++ ":80".toList ++ rest) := by
    unfold urlOf
    rw [defaultPort, if_pos hdigits, hbase, List.nil_append]
    simp only [List.append_assoc]
  obtain ⟨hhost, hportText⟩ := h.portText_unnamed hsome hdigits hauthority
  refine ⟨url, ?_, hhost, ?_⟩
  · rw [htext, hsplit]
  · rw [Url.port?, hportText]
    rfl

/-- The URL of a path is one on the server exactly if the address keeps its parts. -/
theorem WellFormed.reaches_urlOf (h : a.WellFormed) (haccepted : a.Accepted)
    (hrest : StartsPath rest) :
    a.Reaches (a.urlOf rest) (pathPart rest) ↔ a.KeepsItsParts := by
  by_cases hdigits : a.digits = []
  · by_cases hbase : trimSlashes a.base = []
    · by_cases hport : a.port = none
      · exact iff_of_true (h.reaches_alone haccepted hport hbase hrest) (.inr ⟨hport, hbase⟩)
      · refine iff_of_false ?_ (by simp [KeepsItsParts, hdigits, hport])
        rintro ⟨url, hurl, -, -, hnumber, -⟩
        obtain ⟨url', hurl', -, hbad⟩ := h.split_unnamed haccepted hport hdigits hbase hrest
        rw [Except.ok.inj (hurl.symm.trans hurl'), hbad] at hnumber
        cases hnumber
    · refine iff_of_false ?_ (by simp [KeepsItsParts, hdigits, hbase])
      rintro ⟨url, hurl, -, -, hnumber, -⟩
      obtain ⟨url', hurl', -, hnone, -⟩ := h.split_based haccepted hdigits hbase
      rw [Except.ok.inj (hurl.symm.trans hurl'), hnone] at hnumber
      cases hnumber
  · exact iff_of_true (h.reaches_named haccepted hdigits hrest) (.inl hdigits)

end Kinds

/-! ## Clients -/

/-- A path as it stands behind a base URL. -/
def slashed (path : String) : List Char :=
  if path.toList.head? = some '/' then path.toList else '/' :: path.toList

theorem startsPath_slashed (path : String) : StartsPath (slashed path) := by
  unfold slashed
  split
  · next hslash =>
    intro c hc
    exact Option.some.inj ((Option.mem_def.1 hc).symm.trans hslash)
  · exact startsPath_cons _

theorem toList_url (client : HttpClient) (path : String) :
    (client.url path).toList = client.baseUrl.toList ++ slashed path := by
  unfold HttpClient.url slashed
  split <;> simp

/-- A client that is made of an address reaches the server, with every path behind the base path,
exactly if the address names a port or is a host and at most slashes. Otherwise the default port is
put at the end of the text: behind a base path, of which it becomes a piece while the port stays
open, or behind a colon, where it is no port. -/
theorem reaches_iff {client : HttpClient} {timeout attempts auth : Json} {replies : List Reply}
    (h : a.WellFormed)
    (hclient : HttpClient.create (.str (String.ofList a.text)) .null timeout attempts auth replies =
      .ok client) :
    (a.Reaches client.baseUrl.toList [] ↔ a.KeepsItsParts) ∧
    (∀ path, a.Reaches (client.url path).toList (pathPart (slashed path)) ↔ a.KeepsItsParts) ∧
    (¬ a.KeepsItsParts → ∃ url, split client.baseUrl.toList = .ok url ∧
      if trimSlashes a.base = [] then
        url.authority = unbroken a.host ++ "::80".toList ∧ url.port? = .error (.badPort ":80")
      else
        url.authority = unbroken a.authority ∧ url.port? = .ok none ∧
          url.path = a.basePath ++ ":80".toList) := by
  obtain ⟨base, hbase, hclient⟩ := exists_of_bind_eq_ok hclient
  obtain ⟨limit, -, hclient⟩ := exists_of_bind_eq_ok hclient
  obtain rfl := Except.ok.inj hclient
  obtain ⟨haccepted, htext⟩ := h.baseUrl_ok (eq_ok_of_mapError hbase)
  have hurl : base.toList = a.urlOf [] := htext.trans (List.append_nil _).symm
  refine ⟨?_, fun path => ?_, fun hloses => ?_⟩
  · exact hurl ▸ h.reaches_urlOf haccepted startsPath_nil
  · rw [toList_url, htext]
    exact h.reaches_urlOf haccepted (startsPath_slashed path)
  · have hdigits : a.digits = [] := by
      by_contra hdigits
      exact hloses (.inl hdigits)
    rw [hurl]
    split
    · next hslashes =>
      exact h.split_unnamed haccepted (fun hport => hloses (.inr ⟨hport, hslashes⟩)) hdigits
        hslashes startsPath_nil
    · next hslashes =>
      obtain ⟨url, hsplit, hauthority, hport, hpath⟩ := h.split_based haccepted hdigits hslashes
      exact ⟨url, hsplit, hauthority, hport, hpath.trans (by rw [show pathPart [] = [] from rfl,
        List.append_nil])⟩

/-- A host with a port and a base path is reached at both; a host with a base path alone is not
reached, as its base URL is `http://host/base:80`. -/
theorem reaches_iff_based :
    Reaches ⟨"es.local".toList, some "9200".toList, "/search/".toList⟩
      "http://es.local:9200/search".toList [] ∧
    Reaches ⟨"es.local".toList, some "9200".toList, "/search/".toList⟩
      "http://es.local:9200/search/_all".toList "/_all".toList ∧
    ¬ Reaches ⟨"host".toList, none, "/base".toList⟩ "http://host/base:80".toList [] ∧
    ∃ url, split "http://host/base:80".toList = .ok url ∧ url.port? = .ok none ∧
      url.path = "/base:80".toList := by
  have hnamed := reaches_iff (a := ⟨"es.local".toList, some "9200".toList, "/search/".toList⟩)
    ⟨.name (by decide) (by decide), by simp, by simp, startsPath_cons _, by simp, by decide⟩
    (rfl : HttpClient.create (.str "es.local:9200/search/") .null .null (.int 3) .null [] = .ok _)
  have hbased := reaches_iff (a := ⟨"host".toList, none, "/base".toList⟩)
    ⟨.name (by decide) (by decide), by simp, by simp, startsPath_cons _, by simp, by decide⟩
    (rfl : HttpClient.create (.str "host/base") .null .null (.int 3) .null [] = .ok _)
  have hkeeps : KeepsItsParts ⟨"es.local".toList, some "9200".toList, "/search/".toList⟩ :=
    .inl (by decide)
  have hloses : ¬ KeepsItsParts ⟨"host".toList, none, "/base".toList⟩ := by
    rintro (h | ⟨-, h⟩)
    · exact h rfl
    · exact absurd h (by decide)
  obtain ⟨url, hsplit, -, hport, hpath⟩ := hbased.2.2 hloses
  exact ⟨hnamed.1.2 hkeeps, (hnamed.2.1 "_all").2 hkeeps, fun h => hloses (hbased.1.1 h), url,
    hsplit, hport, hpath⟩

end HostAddress

end SearchBuilder
