import SearchBuilder.Text.Hex

/-!
# Percent encoding

A URL parameter keeps ASCII letters, digits and the marks `_.-~`. Every other character is written
as its UTF-8 bytes, each as a percent sign and two capital hexadecimal digits.
-/

namespace SearchBuilder.Percent

/-- The characters that a parameter keeps as they are. -/
def isKept (c : Char) : Bool :=
  c.isAlphanum || c = '_' || c = '.' || c = '-' || c = '~'

/-- One byte as a percent sign and two digits. -/
def encodeByte (b : UInt8) : List Char := '%' :: (hexText 2 b.toNat).map Char.toUpper

/-- The coded form of one character. -/
def encodeChar (c : Char) : List Char :=
  if isKept c then [c] else (String.utf8EncodeChar c).flatMap encodeByte

/-- The percent-encoded form of a text. -/
def encode (s : List Char) : List Char := s.flatMap encodeChar

end SearchBuilder.Percent
