import PakeRegistration.Error
import PakeRegistration.Hash.Hmac

namespace PakeRegistration.Hkdf

def maxLength : Nat := 255 * Sha512.digestSize

/-- An empty salt stands for a digest of zeros. -/
def extract (salt material : Bytes) : Bytes :=
  Hmac.mac (if salt = [] then Bytes.zeros Sha512.digestSize else salt) material

def chain (key label previous : Bytes) (index : Nat) : (count : Nat) → Bytes
  | 0 => []
  | count + 1 =>
      let tag := Hmac.mac key (previous ++ label ++ [UInt8.ofNat index])
      tag ++ chain key label tag (index + 1) count

def stream (key label : Bytes) (length : Nat) : Bytes :=
  (chain key label [] 1 ((length + 63) / 64)).take length

def expand (key label : Bytes) (length : Int) : Except RangeError Bytes :=
  if length < 0 then .error .negativeLength
  else if 0x10000000000000000 ≤ length then .error .hugeLength
  else if maxLength < length then .error .derivedKey
  else .ok (stream key label length.toNat)

@[simp] theorem chain_length (key label previous : Bytes) (index count : Nat) :
    (chain key label previous index count).length = 64 * count := by
  induction count generalizing previous index with
  | zero => rfl
  | succ count ih =>
      simp only [chain, List.length_append, Hmac.mac_length, ih, Sha512.digestSize]
      omega

@[simp] theorem stream_length (key label : Bytes) (length : Nat) : (stream key label length).length = length := by
  simp only [stream, List.length_take, chain_length]
  omega

end PakeRegistration.Hkdf
