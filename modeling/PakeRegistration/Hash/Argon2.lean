import PakeRegistration.Hash.Argon2.Memory

namespace PakeRegistration.Argon2

def outputSize : Nat := 64

def blockOctets : Nat := 1024

def word32 (n : Nat) : Bytes := Bytes.ofNatLE 4 n

/-- The upper half of a digest and of every digest made from it, and a last digest of any size. -/
def chain (last : Nat) (digest : Bytes) : (count : Nat) → Bytes
  | 0 => digest.take 32 ++ Blake2b.hash last digest
  | count + 1 => digest.take 32 ++ chain last (Blake2b.hash 64 digest) count

def longHash (size : Nat) (message : Bytes) : Bytes :=
  let message := word32 size ++ message
  if size ≤ 64 then Blake2b.hash size message
  else
    let halves := (size + 31) / 32 - 2
    chain (size - 32 * halves) (Blake2b.hash 64 message) (halves - 1)

def seed (p : Parameters) (password salt : Bytes) : Bytes :=
  Blake2b.hash 64 <|
    word32 p.parallelism.toNat ++ word32 outputSize ++ word32 p.memoryCost.toNat ++ word32 p.timeCost.toNat ++
      word32 p.version.toNat ++ word32 2 ++ word32 password.length ++ password ++ word32 salt.length ++ salt ++
      word32 0 ++ word32 0

def layout (p : Parameters) : Layout :=
  { lanes := p.parallelism.toNat
    segment := p.memoryCost.toNat / (4 * p.parallelism.toNat)
    passes := p.timeCost.toNat
    overwrites := p.version = 16 }

def firstBlock (seed : Bytes) (lane column : Nat) : Block :=
  Block.ofOctets (longHash blockOctets (seed ++ word32 column ++ word32 lane))

def initialMemory (l : Layout) (seed : Bytes) : Memory :=
  (List.range l.lanes).foldl
    (fun m lane =>
      let start := lane * l.laneLength
      (m.setIfInBounds start (firstBlock seed lane 0)).setIfInBounds (start + 1) (firstBlock seed lane 1))
    (Array.replicate l.blockCount Block.zero)

def digest (p : Parameters) (password salt : Bytes) : Bytes :=
  let l := layout p
  let memory := (initialMemory l (seed p password salt)).fill l
  longHash outputSize (memory.result l).octets

def hash (p : Parameters) (password salt : Bytes) : Except Fault Bytes :=
  match p.fault? with
  | some fault => .error fault
  | none => .ok (digest p password salt)

theorem digest_length (p : Parameters) (password salt : Bytes) : (digest p password salt).length = outputSize := by
  rw [digest, longHash, if_pos (by decide)]
  exact Blake2b.hash_length _ _ (by decide)

end PakeRegistration.Argon2
