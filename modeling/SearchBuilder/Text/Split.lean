/-!
# Cutting texts

Cutting a text at a character: everywhere, at its first or at its last place.
-/

namespace SearchBuilder

/-- The pieces of a text between the places of a character; a text without it is one piece. -/
def splitAtChar (c : Char) : List Char → List (List Char)
  | [] => [[]]
  | d :: rest =>
    if d = c then [] :: splitAtChar c rest
    else
      match splitAtChar c rest with
      | [] => [[d]]
      | piece :: pieces => (d :: piece) :: pieces

/-- What stands behind the first place of a character; nothing if it is not there. -/
def afterFirst (c : Char) (s : List Char) : List Char := (s.dropWhile (· ≠ c)).drop 1

/-- What stands before the first place of a character; everything if it is not there. -/
def beforeFirst (c : Char) (s : List Char) : List Char := s.takeWhile (· ≠ c)

/-- What stands behind the last place of a character; everything if it is not there. -/
def afterLast (c : Char) (s : List Char) : List Char := (s.reverse.takeWhile (· ≠ c)).reverse

/-- Whether a text occurs in another. -/
def occursIn (piece : List Char) : List Char → Bool
  | [] => piece.isEmpty
  | c :: rest => piece.isPrefixOf (c :: rest) || occursIn piece rest

end SearchBuilder
