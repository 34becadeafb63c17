import PakeRegistration.Hash.Blake2b

namespace PakeRegistration.Argon2

abbrev Block := Vector Grid 8

@[inline] def multiplyingSum (x y : UInt64) : UInt64 :=
  x + y + 2 * (x &&& 0xFFFFFFFF) * (y &&& 0xFFFFFFFF)

def permute (g : Grid) : Grid :=
  g.round fun _ q => q.mix multiplyingSum 0 0

namespace Block

def zero : Block := Vector.replicate 8 Grid.zero

def xor (x y : Block) : Block :=
  Vector.zipWith Grid.xor x y

@[inline] def joinLeft (p q : Quad) : Quad := ⟨p.a, p.b, q.a, q.b⟩

@[inline] def joinRight (p q : Quad) : Quad := ⟨p.c, p.d, q.c, q.d⟩

@[inline] def column (row : Grid → Quad) (join : Quad → Quad → Quad) (x : Block) : Grid :=
  { r0 := join (row x[0]) (row x[1])
    r1 := join (row x[2]) (row x[3])
    r2 := join (row x[4]) (row x[5])
    r3 := join (row x[6]) (row x[7]) }

def transpose (x : Block) : Block :=
  #v[column Grid.r0 joinLeft x, column Grid.r0 joinRight x, column Grid.r1 joinLeft x, column Grid.r1 joinRight x,
    column Grid.r2 joinLeft x, column Grid.r2 joinRight x, column Grid.r3 joinLeft x, column Grid.r3 joinRight x]

def compress (x y : Block) : Block :=
  let mixed := xor x y
  let columns := transpose (mixed.map permute)
  xor mixed (transpose (columns.map permute))

def octets (x : Block) : Bytes :=
  x.toList.flatMap Grid.octets

def word (x : Block) (i : Nat) : UInt64 :=
  let grid := x.get ⟨i / 16 % 8, Nat.mod_lt _ (by decide)⟩
  let row :=
    match i / 4 % 4 with
    | 0 => grid.r0
    | 1 => grid.r1
    | 2 => grid.r2
    | _ => grid.r3
  match i % 4 with
  | 0 => row.a
  | 1 => row.b
  | 2 => row.c
  | _ => row.d

def ofWords (words : List UInt64) : Block :=
  let word (i : Nat) := words.getD i 0
  let quad (i : Nat) : Quad := ⟨word i, word (i + 1), word (i + 2), word (i + 3)⟩
  Vector.ofFn fun i : Fin 8 =>
    ⟨quad (16 * i.val), quad (16 * i.val + 4), quad (16 * i.val + 8), quad (16 * i.val + 12)⟩

def ofOctets (octets : Bytes) : Block :=
  ofWords (Word.ofOctets Word.ofLE octets)

end Block

end PakeRegistration.Argon2
