import SearchBuilder.Text.Hex
import SearchBuilder.Text.Printable

/-!
# Quoted texts in messages

A text in a message stands in single quotes, or in double quotes if it holds a single quote and no
double one. The quote in use and the backslash are escaped, and so is every character that is not
printable, in the shortest of the forms `\x41`, `\u0041` and `\U00000041`.
-/

namespace SearchBuilder

/-- The quote around a text. -/
def quoteFor (s : List Char) : Char :=
  if s.contains '\'' && !s.contains '"' then '"' else '\''

/-- One character of a quoted text. -/
def quotedChar (quote c : Char) : List Char :=
  if c = quote || c = '\\' then ['\\', c]
  else if c = '\n' then ['\\', 'n']
  else if c = '\r' then ['\\', 'r']
  else if c = '\t' then ['\\', 't']
  else if isPrintable c then [c]
  else if c.toNat < 0x100 then '\\' :: 'x' :: hexText 2 c.toNat
  else if c.toNat < 0x10000 then '\\' :: 'u' :: hexText 4 c.toNat
  else '\\' :: 'U' :: hexText 8 c.toNat

/-- A text as messages quote it. -/
def quoted (s : List Char) : List Char :=
  let quote := quoteFor s
  quote :: s.flatMap (quotedChar quote) ++ [quote]

end SearchBuilder
