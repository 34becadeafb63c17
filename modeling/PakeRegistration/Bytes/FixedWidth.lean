import PakeRegistration.Error

/-!
Integers as octet strings of a given width, most significant octet first, refused when they do not fit. Memory is
assumed for every octet string and every integer that is asked for, here and wherever zero octets are counted out.
-/

namespace PakeRegistration.FixedWidth

/-- The greatest width whose capacity an integer can hold, as one of at most 2305843009213693945 digits in radix
2³⁰. -/
def maxWidth : Nat := 8646911284551352290

/-- The octets of an integer. A negative integer is refused before the width is looked at, and a width before its
capacity is computed. -/
def encode (value width : Int) : Except RangeError Bytes :=
  if value < 0 then .error (.integer value width)
  else if width < 0 then .error .negativeWidth
  else if maxWidth < width then .error .digitCount
  else if Bytes.capacity width.toNat ≤ value then .error (.integer value width)
  else .ok (Bytes.ofNatBE width.toNat value.toNat)

end PakeRegistration.FixedWidth
