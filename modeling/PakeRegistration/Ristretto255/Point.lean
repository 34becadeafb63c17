import PakeRegistration.Ristretto255.FieldElement

/-!
Points of the twisted Edwards curve with parameter minus one over the field, in extended coordinates: two
affine coordinates over a common denominator and their product. Addition has no exceptional case.
-/

namespace PakeRegistration.Ristretto255

structure Point where
  x : FieldElement
  y : FieldElement
  z : FieldElement
  t : FieldElement

namespace Point

def curveParameter : FieldElement :=
  FieldElement.ofNat 37095705934669439343138083508754565189542113879843219016388785533085940283555

def identity : Point := ⟨0, 1, 1, 0⟩

def add (p q : Point) : Point :=
  let a := (p.y - p.x) * (q.y - q.x)
  let b := (p.y + p.x) * (q.y + q.x)
  let c := 2 * curveParameter * p.t * q.t
  let d := 2 * p.z * q.z
  let e := b - a
  let f := d - c
  let g := d + c
  let h := b + a
  ⟨e * f, g * h, f * g, e * h⟩

def multiple (p : Point) : (digits n : Nat) → Point
  | 0, _ => identity
  | digits + 1, n =>
      let half := multiple p digits (n / 2)
      let double := half.add half
      if n % 2 = 1 then double.add p else double

end Point

end PakeRegistration.Ristretto255
