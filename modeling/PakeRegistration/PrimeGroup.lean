import PakeRegistration.Scalar

/-!
A group of the scalars' order, known by the 32-octet encodings of its elements, and the operations on encodings
that the protocol uses. The identity is encoded by zeros and is never a result.
-/

namespace PakeRegistration

/-- The operations of a group on encodings: which octets are encodings, the element that uniform octets are
mapped to, multiples of an element, when the octets are one, and multiples of the generator. -/
structure PrimeGroup where
  isElement : Bytes → Bool
  ofUniform : Bytes → Bytes
  multiple? : Nat → Bytes → Option Bytes
  baseMultiple : Nat → Bytes

namespace PrimeGroup

def elementSize : Nat := 32

def identity : Bytes := Bytes.zeros elementSize

variable (G : PrimeGroup)

def hash (message tag : Bytes) : Except RangeError Bytes := do
  return G.ofUniform (← Expander.expand message tag Scalar.uniformSize)

/-- The element itself, when it is an encoding and not the identity's. Length, identity and encoding are looked at
in this order. -/
def validate (element : Bytes) (field : Text) : Except DecodeError Bytes :=
  if element.length ≠ elementSize then .error (.elementLength field element.length)
  else if element = identity then .error (.identityElement field)
  else if G.isElement element then .ok element
  else .error (.elementEncoding field)

/-- The number that multiplication reads from a scalar's octets: all bits but the highest. -/
def multiplier (scalar : Bytes) : Nat :=
  Bytes.toNatLE scalar % Nat.pow 2 255

/-- The multiple of an element; the identity is refused as a result. -/
def multiply (scalar element : Bytes) : Except ProtocolError Bytes :=
  if scalar.length ≠ Scalar.size ∨ element.length ≠ elementSize then .error .product
  else
    match G.multiple? (multiplier scalar) element with
    | none => .error .product
    | some product => if product = identity then .error .product else .ok product

def multiplyBase (scalar : Bytes) : Except ProtocolError Bytes :=
  if scalar.length ≠ Scalar.size then .error .baseProduct
  else
    let product := G.baseMultiple (multiplier scalar)
    if product = identity then .error .baseProduct else .ok product

end PrimeGroup

end PakeRegistration
