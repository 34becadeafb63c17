import PakeRegistration.Bytes

namespace PakeRegistration.Word

@[inline] def rotateRight (w n : UInt64) : UInt64 :=
  (w >>> n) ||| (w <<< (64 - n))

def ofBE (bytes : Bytes) : UInt64 :=
  bytes.foldl (fun w b => (w <<< 8) ||| b.toUInt64) 0

def toBE (w : UInt64) : Bytes :=
  [(w >>> 56).toUInt8, (w >>> 48).toUInt8, (w >>> 40).toUInt8, (w >>> 32).toUInt8,
    (w >>> 24).toUInt8, (w >>> 16).toUInt8, (w >>> 8).toUInt8, w.toUInt8]

def ofLE (bytes : Bytes) : UInt64 :=
  ofBE bytes.reverse

def toLE (w : UInt64) : Bytes :=
  (toBE w).reverse

/-- The words of some octets, eight octets a word; fewer than eight at the end are left out. -/
def ofOctets (word : Bytes → UInt64) : Bytes → List UInt64
  | b0 :: b1 :: b2 :: b3 :: b4 :: b5 :: b6 :: b7 :: rest =>
      word [b0, b1, b2, b3, b4, b5, b6, b7] :: ofOctets word rest
  | _ => []

@[simp] theorem toBE_length (w : UInt64) : (toBE w).length = 8 := rfl

@[simp] theorem toLE_length (w : UInt64) : (toLE w).length = 8 := rfl

end PakeRegistration.Word
