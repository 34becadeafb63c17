import PakeRegistration.Hash.Mixing
import PakeRegistration.Hash.Sha512

namespace PakeRegistration.Blake2b

def blockSize : Nat := 128

def initialUpper : Quad :=
  ⟨Sha512.initial.a, Sha512.initial.b, Sha512.initial.c, Sha512.initial.d⟩

def initialLower : Quad :=
  ⟨Sha512.initial.e, Sha512.initial.f, Sha512.initial.g, Sha512.initial.h⟩

def schedule : List (Array Nat) :=
  let rows : List (Array Nat) :=
    [#[0, 1, 2, 3, 4, 5, 6, 7, 8, 9, 10, 11, 12, 13, 14, 15],
      #[14, 10, 4, 8, 9, 15, 13, 6, 1, 12, 0, 2, 11, 7, 5, 3],
      #[11, 8, 12, 0, 5, 2, 15, 13, 10, 14, 3, 6, 7, 1, 9, 4],
      #[7, 9, 3, 1, 13, 12, 11, 14, 2, 6, 5, 10, 4, 0, 15, 8],
      #[9, 0, 5, 7, 2, 4, 10, 15, 14, 1, 11, 12, 6, 8, 3, 13],
      #[2, 12, 6, 10, 0, 11, 8, 3, 4, 13, 7, 5, 15, 14, 1, 9],
      #[12, 5, 1, 15, 14, 13, 4, 10, 0, 7, 6, 3, 9, 2, 8, 11],
      #[13, 11, 7, 14, 12, 1, 3, 9, 5, 0, 15, 4, 8, 6, 2, 10],
      #[6, 15, 14, 9, 11, 3, 0, 8, 12, 2, 13, 7, 1, 4, 10, 5],
      #[10, 2, 8, 4, 7, 6, 1, 5, 15, 11, 9, 14, 3, 12, 13, 0]]
  rows ++ rows.take 2

structure Chain where
  upper : Quad
  lower : Quad

def Chain.octets (c : Chain) : Bytes :=
  c.upper.octets ++ c.lower.octets

/-- One block of at most 128 octets, with the count of octets up to its end. -/
def compress (c : Chain) (block : Bytes) (count : Nat) (final : Bool) : Chain :=
  let padded := block ++ Bytes.zeros (blockSize - block.length)
  let words := (Word.ofOctets Word.ofLE padded).toArray
  let low := UInt64.ofNat count
  let high := UInt64.ofNat (count / 0x10000000000000000)
  let last : UInt64 := if final then ~~~0 else 0
  let start : Grid :=
    { r0 := c.upper
      r1 := c.lower
      r2 := initialUpper
      r3 := initialLower.xor ⟨low, high, last, 0⟩ }
  let mixed := schedule.foldl
    (fun g order => g.round fun i q =>
      q.mix (· + ·) (words.getD (order.getD (2 * i) 0) 0) (words.getD (order.getD (2 * i + 1) 0) 0))
    start
  { upper := (c.upper.xor mixed.r0).xor mixed.r2
    lower := (c.lower.xor mixed.r1).xor mixed.r3 }

def absorb (c : Chain) (count : Nat) : (blocks : Nat) → Bytes → Chain
  | 0, rest => compress c rest (count + rest.length) true
  | blocks + 1, rest =>
      let count := count + blockSize
      absorb (compress c (rest.take blockSize) count false) count blocks (rest.drop blockSize)

def start (size : Nat) : Chain :=
  { upper := initialUpper.xor ⟨0x01010000 + UInt64.ofNat size, 0, 0, 0⟩
    lower := initialLower }

def hash (size : Nat) (message : Bytes) : Bytes :=
  (absorb (start size) 0 ((message.length - 1) / blockSize) message).octets.take size

@[simp] theorem octets_length (c : Chain) : c.octets.length = 64 := rfl

theorem hash_length (size : Nat) (message : Bytes) (h : size ≤ 64) : (hash size message).length = size := by
  simp [hash, Nat.min_eq_left h]

end PakeRegistration.Blake2b
