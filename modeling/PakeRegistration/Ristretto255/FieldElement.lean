import PakeRegistration.Bytes
import PakeRegistration.Modular

namespace PakeRegistration.Ristretto255

def prime : Nat := Nat.pow 2 255 - 19

instance : @NeZero Nat Zero.ofOfNat0 prime := ⟨Nat.succ_ne_zero (Nat.pow 2 255 - 20)⟩

abbrev FieldElement := Fin prime

namespace FieldElement

def ofNat (n : Nat) : FieldElement := Fin.ofNat prime n

/-- The number of 32 octets without the highest bit. -/
def ofOctets (octets : Bytes) : FieldElement :=
  ofNat (Bytes.toNatLE octets % Nat.pow 2 255)

def toOctets (x : FieldElement) : Bytes :=
  Bytes.ofNatLE 32 x.val

/-- Odd representatives count as negative. -/
def IsNegative (x : FieldElement) : Prop := x.val % 2 = 1

instance : DecidablePred IsNegative := fun x => inferInstanceAs (Decidable (x.val % 2 = 1))

def abs (x : FieldElement) : FieldElement := if x.IsNegative then -x else x

def pow (x : FieldElement) (exponent : Nat) : FieldElement :=
  ofNat (Modular.pow prime x.val 255 exponent)

def rootOfMinusOne : FieldElement :=
  ofNat 19681161376707505956807079304988542015446066515923890162744021073123829784752

/-- The non-negative root of a ratio, or of its multiple by the root of minus one, and which of both it is. -/
def ratioRoot (u v : FieldElement) : Bool × FieldElement :=
  let v3 := v * v * v
  let v7 := v3 * v3 * v
  let root := u * v3 * pow (u * v7) ((prime - 5) / 8)
  let check := v * root * root
  let flipped := check = -u ∨ check = -(u * rootOfMinusOne)
  let root := if flipped then rootOfMinusOne * root else root
  (check = u ∨ check = -u, root.abs)

end FieldElement

end PakeRegistration.Ristretto255
