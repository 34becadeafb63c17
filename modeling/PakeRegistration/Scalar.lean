import PakeRegistration.Hash.Expander
import PakeRegistration.Modular

namespace PakeRegistration.Scalar

def size : Nat := 32

def uniformSize : Nat := 64

def order : Nat := Nat.pow 2 252 + 27742317777372353535851937790883648493

def zero : Bytes := Bytes.zeros size

def ofNat (n : Nat) : Bytes :=
  Bytes.ofNatLE size (n % order)

def reduce (uniform : Bytes) : Except RangeError Bytes :=
  if uniform.length = uniformSize then .ok (ofNat (Bytes.toNatLE uniform)) else .error .uniform

def hash (message tag : Bytes) : Except RangeError Bytes := do
  reduce (← Expander.expand message tag uniformSize)

/-- The scalar itself, when it is the canonical encoding of a number that is not zero. Length, zero and
reduction are looked at in this order. -/
def validate (scalar : Bytes) (field : Text) : Except DecodeError Bytes :=
  if scalar.length ≠ size then .error (.scalarLength field scalar.length)
  else if scalar = zero then .error (.zeroScalar field)
  else if ofNat (Bytes.toNatLE scalar) ≠ scalar then .error (.unreducedScalar field)
  else .ok scalar

/-- The octets of the inverse modulo the group order. Octets of a multiple of the order other than the zero
octets are not refused, and the power that is computed for them is zero. -/
def invert (scalar : Bytes) : Except ProtocolError Bytes :=
  if scalar = zero ∨ scalar.length ≠ size then .error .zeroInversion
  else .ok (ofNat (Modular.pow order (Bytes.toNatLE scalar % order) 253 (order - 2)))

@[simp] theorem ofNat_length (n : Nat) : (ofNat n).length = size :=
  Bytes.ofNatLE_length size (n % order)

theorem toNatLE_ofNat (n : Nat) : Bytes.toNatLE (ofNat n) = n % order := by
  have h : n % order < Bytes.capacity size := Nat.lt_trans (Nat.mod_lt n (by decide)) (by decide)
  rw [ofNat, Bytes.toNatLE_ofNatLE, Nat.mod_eq_of_lt h]

end PakeRegistration.Scalar
