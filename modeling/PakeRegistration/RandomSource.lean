import PakeRegistration.Run

namespace PakeRegistration

/-- What a random source may do when it is called: give up, give something other than octets, or give octets. -/
inductive Draw
  | raised (text : Text)
  | malformed
  | octets (octets : Bytes)
deriving DecidableEq, Repr

/-- A source by the number of the call, from one, and the count of octets that is asked for. -/
abbrev RandomSource := Nat → Int → Draw

namespace RandomSource

def accept (count : Int) : Draw → Except RandomSourceError Bytes
  | .raised text => .error (.unavailable text)
  | .malformed => .error (.malformed count)
  | .octets octets => if octets.length = count then .ok octets else .error (.malformed count)

def draw (source : RandomSource) (call : Nat) (count : Int) : Run Bytes :=
  ⟨[.drew count], (accept count (source call count)).mapError .randomSource⟩

end RandomSource

end PakeRegistration
