import SearchBuilder.Client.Backoff
import SearchBuilder.Client.Transport
import SearchBuilder.Json.Parser
import SearchBuilder.Json.Writing

/-!
# Platforms

What the calls of clients take from the platform that they run on: the limit of digits in texts, the
reading of answers, and the random draws that are added to pauses. How deep values are nested is not
limited.
-/

namespace SearchBuilder

/-- Reads a body by the rules of JSON alone. -/
def readStrictly (body : String) : Except TransportError Json :=
  let text := body.toList
  (Json.parse text).mapError fun misreading => ⟨.undecodable, misreading.message text⟩

/-- The platform that a program runs on. -/
structure Platform where
  /-- The most digits of a whole number in a text. -/
  digits : DigitLimit := none
  /-- Reads the body of an answer. -/
  read : String → Except TransportError Json := readStrictly
  /-- The draws that are added to pauses, in their order. -/
  jitter : Nat → Binary64 := fun _ => .zero false

namespace Platform

/-- The platform after some draws. -/
def skip (platform : Platform) (draws : Nat) : Platform :=
  { platform with jitter := fun k => platform.jitter (draws + k) }

/-- The pause after an attempt of a call, for which the call draws once. -/
def pause? (platform : Platform) (attempt : Nat) : Option Binary64 :=
  Backoff.pause? attempt (platform.jitter (attempt - 1))

end Platform

end SearchBuilder
