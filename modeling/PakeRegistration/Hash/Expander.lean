import PakeRegistration.Bytes.FixedWidth
import PakeRegistration.Hash.Sha512

namespace PakeRegistration.Expander

def maxBlocks : Nat := 255

def maxTag : Nat := 255

def seedInput (message lengthOctets tag : Bytes) : Bytes :=
  Bytes.zeros Sha512.blockSize ++ message ++ lengthOctets ++ [0] ++ tag

def linkInput (seed tag previous : Bytes) (index : Nat) : Bytes :=
  Bytes.xor seed previous ++ [UInt8.ofNat index] ++ tag

/-- Digests one after the other, each over the seed mixed with the last one, its own number and the tag. -/
def chain (seed tag previous : Bytes) (index : Nat) : (count : Nat) → Bytes
  | 0 => []
  | count + 1 =>
      let block := Sha512.hash (linkInput seed tag previous index)
      block ++ chain seed tag block (index + 1) count

/-- Uniform octets of a length. Too long a length is reported before too long a tag, and a negative one after. -/
def expand (message tag : Bytes) (length : Int) : Except RangeError Bytes := do
  let count := -(-length / 64)
  if maxBlocks < count ∨ 65535 < length then throw (.expansion length)
  if maxTag < tag.length then throw (.tag tag.length)
  let tag := tag ++ (← FixedWidth.encode tag.length 1)
  let lengthOctets ← FixedWidth.encode length 2
  let seed := Sha512.hash (seedInput message lengthOctets tag)
  return (chain seed tag (Bytes.zeros Sha512.digestSize) 1 count.toNat).take length.toNat

@[simp] theorem chain_length (seed tag previous : Bytes) (index count : Nat) :
    (chain seed tag previous index count).length = 64 * count := by
  induction count generalizing previous index with
  | zero => rfl
  | succ count ih =>
      simp only [chain, List.length_append, Sha512.hash_length, ih, Sha512.digestSize]
      omega

end PakeRegistration.Expander
