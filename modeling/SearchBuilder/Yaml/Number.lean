import SearchBuilder.Number.Binary64
import SearchBuilder.Text.Hex
import SearchBuilder.Text.Split
import SearchBuilder.Yaml.Cursor

/-!
# Numbers of YAML

Integers are written in base 2, 8, 10, 16 or 60, doubles in base 10 or 60. Underscores may stand
between and behind digits. A double needs a point, and its exponent a sign.
-/

namespace SearchBuilder.Yaml

/-- Whether a character is a digit or an underscore. -/
def isSpacedDigit (c : Char) : Bool := c.isDigit || c = '_'

/-- The number that digits stand for in a base, without the underscores. -/
def spacedValue (base : Nat) (digits : List Char) : Nat :=
  (digits.filterMap hexValue?).foldl (fun n digit => n * base + digit) 0

/-- Whether a text is digits and underscores, a digit first. -/
def isSpacedNumber (s : List Char) : Bool := s.head?.any Char.isDigit && s.all isSpacedDigit

/-- Whether a text counts minutes or seconds: one digit, or two of which the first is below six. -/
def isSixtieth : List Char → Bool
  | [low] => low.isDigit
  | [high, low] => '0' ≤ high && high ≤ '5' && low.isDigit
  | _ => false

/-- A sign, if there is one, and what follows it. -/
def takeSign : List Char → Bool × List Char
  | '-' :: rest => (true, rest)
  | '+' :: rest => (false, rest)
  | s => (false, s)

/-! ## Integers -/

/-- The parts of a number in base 60, if there is more than one. -/
def sixtieths? (s : List Char) : Option (List (List Char)) :=
  match splitAtChar ':' s with
  | first :: next :: others =>
    if isSpacedNumber first && (next :: others).all isSixtieth then some (first :: next :: others)
    else none
  | _ => none

/-- The digits behind the sign of a base. There may be underscores alone, which is no number. -/
def basedDigits? (base : Nat) (isDigit : Char → Bool) (digits : List Char) :
    Option (Except Flaw Nat) :=
  if digits.isEmpty || !digits.all fun c => isDigit c || c = '_' then none
  else if digits.all (· = '_') then some (.error (.noDigits base))
  else some (.ok (spacedValue base digits))

/-- The size of an integer, if a text is one. -/
def magnitude? (s : List Char) : Option (Except Flaw Nat) :=
  match s with
  | '0' :: 'b' :: digits => basedDigits? 2 (fun c => c = '0' || c = '1') digits
  | '0' :: 'x' :: digits => basedDigits? 16 (fun c => (hexValue? c).isSome) digits
  | '0' :: digits =>
    if digits.all fun c => ('0' ≤ c && c ≤ '7') || c = '_' then some (.ok (spacedValue 8 digits))
    else none
  | _ =>
    if isSpacedNumber s then some (.ok (spacedValue 10 s))
    else
      (sixtieths? s).map fun parts =>
        .ok (parts.foldl (fun n part => n * 60 + spacedValue 10 part) 0)

/-- The integer that a text is. -/
def integer? (s : List Char) : Option (Except Flaw Int) :=
  let (negative, body) := takeSign s
  (magnitude? body).map fun size => size.map fun n => if negative then -(n : Int) else n

/-! ## Doubles -/

/-- A double with a sign. -/
def withSign (negative : Bool) : Binary64 → Binary64
  | .signed _ rank => .signed negative rank
  | .nan => .nan

/-- The digits behind a point. -/
def spacedFraction (s : List Char) : List Char := (s.takeWhile isSpacedDigit).filter Char.isDigit

/-- The exponent behind the digits of a fraction; zero if there is nothing. -/
def exponent? (s : List Char) : Option Int :=
  match s.dropWhile isSpacedDigit with
  | [] => some 0
  | mark :: sign :: digits =>
    if (mark = 'e' || mark = 'E') && !digits.isEmpty && digits.all Char.isDigit then
      let size : Int := spacedValue 10 digits
      if sign = '-' then some (-size) else if sign = '+' then some size else none
    else none
  | _ => none

/-- The double of the digits before and behind a point. -/
def pointed (whole fraction : List Char) (exponent : Int) : Binary64 :=
  let digits := whole.filter Char.isDigit ++ fraction
  .ofDecimal false (spacedValue 10 digits) (exponent - fraction.length)

/-- The double of parts in base 60, the last of which has a fraction. It is summed from the last
part on. -/
def sixtiethsValue (parts : List (List Char)) (fraction : List Char) : Binary64 :=
  let terms := match parts.reverse with
    | [] => []
    | last :: others => pointed last fraction 0 :: others.map (pointed · [] 0)
  (terms.foldl
    (fun (sum, base) term => (sum.add (term.mul (.ofNat base)), base * 60))
    (Binary64.zero false, 1)).1

/-- The double that a text without a sign is. -/
def unsignedDouble? (s : List Char) : Option Binary64 :=
  if !s.contains '.' then none
  else
    let whole := beforeFirst '.' s
    let rest := afterFirst '.' s
    if isSpacedNumber whole then
      (exponent? rest).map (pointed whole (spacedFraction rest))
    else if rest.all isSpacedDigit then
      (sixtieths? whole).map (sixtiethsValue · (spacedFraction rest))
    else none

/-- The ways to write infinity behind its point. -/
def infinityNames : List String := ["inf", "Inf", "INF"]

/-- The ways to write what is no number behind its point. -/
def nanNames : List String := ["nan", "NaN", "NAN"]

/-- The double that a text is. Without a digit before the point there is no sign. -/
def double? (s : List Char) : Option Binary64 :=
  let (negative, body) := takeSign s
  match body with
  | '.' :: rest =>
    if infinityNames.contains (String.ofList rest) then some (.infinity negative)
    else if s.head? ≠ some '.' then none
    else if nanNames.contains (String.ofList rest) then some .nan
    else if rest.head?.any Char.isDigit then
      (exponent? rest).map (pointed [] (spacedFraction rest))
    else none
  | _ => (unsignedDouble? body).map (withSign negative)

end SearchBuilder.Yaml
