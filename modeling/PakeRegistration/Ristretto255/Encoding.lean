import PakeRegistration.Ristretto255.Point

namespace PakeRegistration.Ristretto255.Encoding

open FieldElement Point

def decode? (octets : Bytes) : Option Point :=
  let n := Bytes.toNatLE octets
  if octets.length ≠ 32 ∨ prime ≤ n ∨ n % 2 = 1 then none
  else
    let s := FieldElement.ofNat n
    let u1 := 1 - s * s
    let u2 := 1 + s * s
    let v := -(curveParameter * u1 * u1) - u2 * u2
    let (isSquare, root) := ratioRoot 1 (v * u2 * u2)
    let denominatorX := root * u2
    let denominatorY := root * denominatorX * v
    let x := (2 * s * denominatorX).abs
    let y := u1 * denominatorY
    let t := x * y
    if ¬isSquare ∨ t.IsNegative ∨ y = 0 then none else some ⟨x, y, 1, t⟩

/-- The inverse root of minus one minus the curve parameter. -/
def rotationFactor : FieldElement :=
  FieldElement.ofNat 54469307008909316920995813868745141605393597292927456921205312896311721017578

def encode (p : Point) : Bytes :=
  let u1 := (p.z + p.y) * (p.z - p.y)
  let u2 := p.x * p.y
  let (_, root) := ratioRoot 1 (u1 * u2 * u2)
  let d1 := root * u1
  let d2 := root * u2
  let zInverse := d1 * d2 * p.t
  let rotated := (p.t * zInverse).IsNegative
  let x := if rotated then p.y * rootOfMinusOne else p.x
  let y := if rotated then p.x * rootOfMinusOne else p.y
  let inverse := if rotated then d1 * rotationFactor else d2
  let y := if (x * zInverse).IsNegative then -y else y
  (inverse * (p.z - y)).abs.toOctets

def mapFactor : FieldElement := 1 - curveParameter * curveParameter

def mapShift : FieldElement := (curveParameter - 1) * (curveParameter - 1)

/-- A root of minus the curve parameter minus one. -/
def mapRoot : FieldElement :=
  FieldElement.ofNat 25063068953384623474111414158702152701244531502492656460079210482610430750235

def map (t : FieldElement) : Point :=
  let r := rootOfMinusOne * t * t
  let u := (r + 1) * mapFactor
  let v := (-1 - r * curveParameter) * (r + curveParameter)
  let (isSquare, root) := ratioRoot u v
  let s := if isSquare then root else -(root * t).abs
  let c := if isSquare then -1 else r
  let n := c * (r - 1) * mapShift - v
  let w0 := 2 * s * v
  let w1 := n * mapRoot
  let w2 := 1 - s * s
  let w3 := 1 + s * s
  ⟨w0 * w3, w2 * w1, w1 * w3, w0 * w2⟩

def ofUniform (octets : Bytes) : Point :=
  (map (ofOctets (octets.take 32))).add (map (ofOctets (octets.drop 32)))

end PakeRegistration.Ristretto255.Encoding
