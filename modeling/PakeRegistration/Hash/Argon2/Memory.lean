import PakeRegistration.Hash.Argon2.Block
import PakeRegistration.Hash.Argon2.Parameters

/-!
The memory of the hash and how it is filled: lanes of four segments, filled segment by segment in every pass,
every block compressed from the one before it in its lane and one that an address word points to. The address
words come from a counter in the first half of the first pass, and from the block before afterwards.
-/

namespace PakeRegistration.Argon2

/-- What the filling of memory depends on: lanes, blocks in a segment, passes, and whether later passes write
over blocks instead of adding to them. -/
structure Layout where
  lanes : Nat
  segment : Nat
  passes : Nat
  overwrites : Bool

namespace Layout

def laneLength (l : Layout) : Nat := 4 * l.segment

def blockCount (l : Layout) : Nat := l.lanes * l.laneLength

end Layout

/-- A pass, a quarter of it, a lane, and a block's place in the segment. -/
structure Place where
  pass : Nat
  slice : Nat
  lane : Nat
  index : Nat

abbrev Memory := Array Block

namespace Memory

def block (m : Memory) (i : Nat) : Block := m.getD i Block.zero

end Memory

namespace Place

/-- The number of blocks that may be pointed at, and the place of the first of them in its lane. -/
def window (l : Layout) (p : Place) (sameLane : Bool) : Nat × Nat :=
  let finished := if p.pass = 0 then p.slice * l.segment else l.laneLength - l.segment
  let size :=
    if sameLane then finished + p.index - 1
    else if p.index = 0 then finished - 1
    else finished
  let start := if p.pass = 0 ∨ p.slice = 3 then 0 else (p.slice + 1) * l.segment
  (size, start)

/-- The block that an address word points to: its upper half chooses the lane, and its lower half a place in
the window, nearer places being likelier. -/
def reference (l : Layout) (p : Place) (address : UInt64) : Nat :=
  let lane := if p.pass = 0 ∧ p.slice = 0 then p.lane else (address >>> 32).toNat % l.lanes
  let (size, start) := p.window l (lane = p.lane)
  let x := (address &&& 0xFFFFFFFF).toNat
  let back := size * (x * x / 0x100000000) / 0x100000000
  lane * l.laneLength + (start + (size - 1 - back)) % l.laneLength

def current (l : Layout) (p : Place) : Nat :=
  p.lane * l.laneLength + p.slice * l.segment + p.index

def previous (l : Layout) (p : Place) : Nat :=
  let place := p.slice * l.segment + p.index
  p.lane * l.laneLength + (if place = 0 then l.laneLength - 1 else place - 1)

end Place

/-- One of the blocks of 128 address words of a segment whose addresses come from a counter. -/
def addressBlock (l : Layout) (pass slice lane number : Nat) : Block :=
  let input := Block.ofWords <|
    [pass, lane, slice, l.blockCount, l.passes, 2, number + 1].map UInt64.ofNat
  Block.compress Block.zero (Block.compress Block.zero input)

def countedAddresses (pass slice : Nat) : Bool := pass = 0 ∧ slice < 2

namespace Memory

def fillBlock (l : Layout) (addresses : Array Block) (m : Memory) (p : Place) : Memory :=
  let previous := m.block (p.previous l)
  let address :=
    if countedAddresses p.pass p.slice then (addresses.getD (p.index / 128) Block.zero).word (p.index % 128)
    else previous.word 0
  let new := Block.compress previous (m.block (p.reference l address))
  let i := p.current l
  let new := if p.pass = 0 ∨ l.overwrites then new else Block.xor new (m.block i)
  m.setIfInBounds i new

def fillSegment (l : Layout) (pass slice : Nat) (m : Memory) (lane : Nat) : Memory :=
  let addresses :=
    if countedAddresses pass slice then
      ((List.range ((l.segment + 127) / 128)).map (addressBlock l pass slice lane)).toArray
    else #[]
  let first := if pass = 0 ∧ slice = 0 then 2 else 0
  (List.range' first (l.segment - first)).foldl
    (fun m index => m.fillBlock l addresses ⟨pass, slice, lane, index⟩) m

def fillPass (l : Layout) (m : Memory) (pass : Nat) : Memory :=
  (List.range 4).foldl (fun m slice => (List.range l.lanes).foldl (fillSegment l pass slice) m) m

def fill (l : Layout) (m : Memory) : Memory :=
  (List.range l.passes).foldl (fillPass l) m

def result (l : Layout) (m : Memory) : Block :=
  (List.range l.lanes).foldl
    (fun sum lane => Block.xor sum (m.block (lane * l.laneLength + l.laneLength - 1))) Block.zero

end Memory

end PakeRegistration.Argon2
