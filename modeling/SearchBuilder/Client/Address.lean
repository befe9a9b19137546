import SearchBuilder.Text.Hex
import SearchBuilder.Text.Split

/-!
# Numeric host addresses

Which texts are addresses of hosts: four decimal octets, or eight groups of hexadecimal digits of
which one run of zeros may be left out and the last two may be written as octets.
-/

namespace SearchBuilder.Address

/-- A decimal number up to 255 without leading zeros. -/
def isOctet (s : List Char) : Bool :=
  !s.isEmpty && s.all Char.isDigit && s.length ≤ 3 && (s.length = 1 || s.head? ≠ some '0') &&
    s.foldl (fun n c => n * 10 + (c.toNat - '0'.toNat)) 0 ≤ 255

/-- Four octets. -/
def isIPv4 (s : List Char) : Bool :=
  let octets := splitAtChar '.' s
  octets.length = 4 && octets.all isOctet

/-- One to four hexadecimal digits. -/
def isGroup (s : List Char) : Bool :=
  !s.isEmpty && s.length ≤ 4 && s.all fun c => (hexValue? c).isSome

/-- The groups of an address, with octets at the end counted as two groups. -/
def groups? (s : List Char) : Option (List (List Char)) :=
  let groups := splitAtChar ':' s
  match groups.getLast? with
  | some last =>
    if last.contains '.' then
      if isIPv4 last then some (groups.dropLast ++ [['0'], ['0']]) else none
    else some groups
  | none => none

/-- The groups on one side of an omitted run. If there are none, an empty one stands for them. -/
def side? (groups : List (List Char)) : Option (List (List Char)) :=
  if groups = [[]] then some []
  else if groups.all isGroup then some groups
  else none

/-- Groups around one omitted run of zeros. -/
def isAbridged (before after : List (List Char)) : Bool :=
  match side? before, side? after with
  | some high, some low => high.length + low.length < 8
  | _, _ => false

/-- The places of an empty group that is neither first nor last. -/
def gaps (groups : List (List Char)) : List Nat :=
  (List.range groups.length).filter fun i =>
    0 < i && i + 1 < groups.length && groups[i]? = some []

/-- Groups of hexadecimal digits, before an optional zone. -/
def isIPv6 (s : List Char) : Bool :=
  let address := beforeFirst '%' s
  let zone := afterFirst '%' s
  let zoneFits := !s.contains '%' || (!zone.isEmpty && !zone.contains '%')
  zoneFits && !s.contains '/' && 3 ≤ (splitAtChar ':' address).length &&
    match groups? address with
    | none => false
    | some groups =>
      groups.length ≤ 9 &&
        match gaps groups with
        | [] => groups.length = 8 && groups.all isGroup
        | [gap] => isAbridged (groups.take gap) (groups.drop (gap + 1))
        | _ => false

/-- The form of future addresses: a `v`, a version in hexadecimal digits, a point and more. -/
def isFuture (s : List Char) : Bool :=
  let (version, rest) := (s.drop 1).span fun c => (hexValue? c).isSome
  match rest with
  | '.' :: _ :: _ => s.head? = some 'v' && !version.isEmpty
  | _ => false

end SearchBuilder.Address
