import PakeRegistration.Hash.Word

namespace PakeRegistration

structure Quad where
  a : UInt64
  b : UInt64
  c : UInt64
  d : UInt64

namespace Quad

@[inline] def xor (p q : Quad) : Quad :=
  ⟨p.a ^^^ q.a, p.b ^^^ q.b, p.c ^^^ q.c, p.d ^^^ q.d⟩

def octets (q : Quad) : Bytes :=
  Word.toLE q.a ++ Word.toLE q.b ++ Word.toLE q.c ++ Word.toLE q.d

/-- Four words mixed by additions, differences and rotations, with one word put in at each half. -/
@[inline] def mix (sum : UInt64 → UInt64 → UInt64) (first second : UInt64) (q : Quad) : Quad :=
  let a := sum q.a q.b + first
  let d := Word.rotateRight (q.d ^^^ a) 32
  let c := sum q.c d
  let b := Word.rotateRight (q.b ^^^ c) 24
  let a := sum a b + second
  let d := Word.rotateRight (d ^^^ a) 16
  let c := sum c d
  let b := Word.rotateRight (b ^^^ c) 63
  ⟨a, b, c, d⟩

end Quad

structure Grid where
  r0 : Quad
  r1 : Quad
  r2 : Quad
  r3 : Quad

namespace Grid

def zero : Grid :=
  let row : Quad := ⟨0, 0, 0, 0⟩
  ⟨row, row, row, row⟩

@[inline] def xor (g h : Grid) : Grid :=
  ⟨g.r0.xor h.r0, g.r1.xor h.r1, g.r2.xor h.r2, g.r3.xor h.r3⟩

@[inline] def mapColumns (f : Nat → Quad → Quad) (g : Grid) : Grid :=
  let c0 := f 0 ⟨g.r0.a, g.r1.a, g.r2.a, g.r3.a⟩
  let c1 := f 1 ⟨g.r0.b, g.r1.b, g.r2.b, g.r3.b⟩
  let c2 := f 2 ⟨g.r0.c, g.r1.c, g.r2.c, g.r3.c⟩
  let c3 := f 3 ⟨g.r0.d, g.r1.d, g.r2.d, g.r3.d⟩
  { r0 := ⟨c0.a, c1.a, c2.a, c3.a⟩
    r1 := ⟨c0.b, c1.b, c2.b, c3.b⟩
    r2 := ⟨c0.c, c1.c, c2.c, c3.c⟩
    r3 := ⟨c0.d, c1.d, c2.d, c3.d⟩ }

/-- Every row turned to the left by its number, which turns diagonals into columns. -/
@[inline] def skew (g : Grid) : Grid :=
  { r0 := g.r0
    r1 := ⟨g.r1.b, g.r1.c, g.r1.d, g.r1.a⟩
    r2 := ⟨g.r2.c, g.r2.d, g.r2.a, g.r2.b⟩
    r3 := ⟨g.r3.d, g.r3.a, g.r3.b, g.r3.c⟩ }

@[inline] def unskew (g : Grid) : Grid :=
  { r0 := g.r0
    r1 := ⟨g.r1.d, g.r1.a, g.r1.b, g.r1.c⟩
    r2 := ⟨g.r2.c, g.r2.d, g.r2.a, g.r2.b⟩
    r3 := ⟨g.r3.b, g.r3.c, g.r3.d, g.r3.a⟩ }

/-- A double round; columns have the numbers 0 to 3 and diagonals the numbers 4 to 7. -/
@[inline] def round (f : Nat → Quad → Quad) (g : Grid) : Grid :=
  ((g.mapColumns f).skew.mapColumns fun i => f (4 + i)).unskew

theorem unskew_skew (g : Grid) : g.skew.unskew = g := rfl

def octets (g : Grid) : Bytes :=
  g.r0.octets ++ g.r1.octets ++ g.r2.octets ++ g.r3.octets

end Grid

end PakeRegistration
