import SearchBuilder.Client.Address
import SearchBuilder.Json.Display
import SearchBuilder.Text.Blank

/-!
# Server addresses

The parts of a URL, and the base URL that a server's address stands for. An address may be a URL,
which is taken as it is, or a host with an optional port and path, which is given the scheme `http`
and the port 80 unless it names one. A base URL has no slash at its end, so a path can be appended.
-/

namespace SearchBuilder

/-- What is wrong with a URL. -/
inductive UrlFlaw where
  | unbalancedBrackets
  | badFutureAddress
  | notAnAddress (host : String)
  | boxedIPv4
  | foldedMark (authority : String)
  | badPort (port : String)
  | portTooLarge
  deriving DecidableEq, Repr

/-- A flaw in words. -/
def UrlFlaw.message : UrlFlaw → String
  | unbalancedBrackets => "Invalid IPv6 URL"
  | badFutureAddress => "IPvFuture address is invalid"
  | notAnAddress host =>
    s!"{String.ofList (quoted host.toList)} does not appear to be an IPv4 or IPv6 address"
  | boxedIPv4 => "An IPv4 address cannot be in brackets"
  | foldedMark authority =>
    s!"netloc '{authority}' contains invalid characters under NFKC normalization"
  | badPort port =>
    let shown := String.ofList (quoted port.toList)
    s!"Port could not be cast to integer value as {shown}"
  | portTooLarge => "Port out of range 0-65535"

/-- The parts of a URL that matter to a client. -/
structure Url where
  scheme : List Char
  authority : List Char
  path : List Char

namespace Url

/-- Characters of which compatibility normalization makes a mark that ends or divides the authority:
one of `/`, `?`, `#`, `@` and `:`. -/
def foldedMarks : List Char :=
  ['⁇', '⁈', '⁉', '℀', '℁', '℅', '℆', '⩴', '︓', '︖', '﹕', '﹖', '﹟', '﹫', '＃', '／', '：', '？', '＠']

/-- Whether a scheme is made of letters, digits and `+-.`, a letter first. -/
def isScheme (s : List Char) : Bool :=
  (s.head?.any Char.isAlpha) && s.all fun c => c.isAlphanum || c = '+' || c = '-' || c = '.'

/-- Leading control characters and spaces do not count, and tabs and line ends nowhere. -/
def clean (s : List Char) : List Char :=
  (s.dropWhile (·.toNat ≤ 0x20)).filter fun c => !(c = '\t' || c = '\r' || c = '\n')

/-- Checks what stands in the brackets of an authority. -/
def checkBrackets (authority : List Char) : Except UrlFlaw Unit :=
  let opened := authority.contains '['
  let closed := authority.contains ']'
  if opened != closed then .error .unbalancedBrackets
  else if !opened then .ok ()
  else
    let host := beforeFirst ']' (afterFirst '[' authority)
    if host.head? = some 'v' then
      if Address.isFuture host then .ok () else .error .badFutureAddress
    else if Address.isIPv6 host then .ok ()
    else if Address.isIPv4 host then .error .boxedIPv4
    else .error (.notAnAddress (String.ofList host))

/-- Cuts a URL into its parts. -/
def split (text : List Char) : Except UrlFlaw Url := do
  let s := clean text
  let front := beforeFirst ':' s
  let (scheme, rest) :=
    if s.contains ':' && isScheme front then (front.map Char.toLower, afterFirst ':' s) else ([], s)
  let (authority, rest) := match rest with
    | '/' :: '/' :: rest => rest.span fun c => !(c = '/' || c = '?' || c = '#')
    | _ => ([], rest)
  checkBrackets authority
  if authority.any foldedMarks.contains then
    throw (.foldedMark (String.ofList authority))
  return { scheme, authority, path := beforeFirst '?' (beforeFirst '#' rest) }

/-- The text of the port: what stands behind the host's first colon, after user names and
brackets. -/
def portText (u : Url) : List Char :=
  let host := afterLast '@' u.authority
  if host.contains '[' then afterFirst ':' (afterFirst ']' (afterFirst '[' host))
  else afterFirst ':' host

/-- The port, if one is named. -/
def port? (u : Url) : Except UrlFlaw (Option Nat) :=
  let text := u.portText
  if text.isEmpty then .ok none
  else if text.all Char.isDigit then
    let port := text.foldl (fun n c => n * 10 + (c.toNat - '0'.toNat)) 0
    if port ≤ 65535 then .ok (some port) else .error .portTooLarge
  else .error (.badPort (String.ofList text))

end Url

/-! ## Base URLs -/

/-- Why an address gives no base URL. -/
inductive AddressFault where
  | url (flaw : UrlFlaw)
  /-- An address or port of a type that has no use here. -/
  | badType
  /-- An address that is a list or an object. -/
  | notText
  deriving DecidableEq, Repr

/-- Whether a port is given that counts: a number above zero. -/
def countsAsPort (port : Json) : Except AddressFault Bool :=
  match port with
  | .null => .ok false
  | .bool b => .ok b
  | .int i => .ok (0 < i)
  | .float x => .ok ((Binary64.zero false).lt x)
  | _ => .error .badType

/-- Drops the slashes at the end of a text. -/
def trimSlashes (s : List Char) : List Char := trimRight (· = '/') s

/-- The base URL of a host without a scheme. -/
def hostUrl (host : List Char) : Except AddressFault (List Char) := do
  let url := "http://".toList ++ trimSlashes host
  let parts ← (Url.split url).mapError .url
  let port ← parts.port?.mapError .url
  return if port.isSome then url else url ++ ":80".toList

/-- The base URL of a server, given by its address and an optional port. -/
def baseUrl (address port : Json) : Except AddressFault String := do
  if ← countsAsPort port then
    let url := s!"http://{address.plainText}:{port.plainText}"
    return String.ofList (trimSlashes url.toList)
  match address with
  | .str text =>
    let s := text.toList
    let url ← if occursIn "://".toList s then pure s else hostUrl s
    return String.ofList (trimSlashes url)
  | .arr _ | .obj _ => throw .notText
  | _ => throw .badType

end SearchBuilder
