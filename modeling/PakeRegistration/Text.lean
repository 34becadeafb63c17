import PakeRegistration.Bytes

/-!
Texts as sequences of Unicode code points. A surrogate may stand alone in a text, so a text need not have
a UTF-8 form; the first run of surrogates is what stands in the way. A string may stand where a text is wanted.
-/

namespace PakeRegistration

abbrev CodePoint := Fin 0x110000

abbrev Text := List CodePoint

namespace CodePoint

def ofChar (c : Char) : CodePoint :=
  ⟨c.toNat, by
    have h := c.valid
    simp only [UInt32.isValidChar, Nat.isValidChar] at h
    simp only [Char.toNat]
    omega⟩

def ofOctet (b : UInt8) : CodePoint :=
  ⟨b.toNat, Nat.lt_trans b.toNat_lt (by decide)⟩

/-- The character of a code point, U+FFFD for a surrogate. -/
def toChar (c : CodePoint) : Char :=
  if h : c.val.isValidChar then Char.ofNatAux c.val h else Char.ofNat 0xFFFD

def IsSurrogate (c : CodePoint) : Prop :=
  0xD800 ≤ c.val ∧ c.val ≤ 0xDFFF

instance : DecidablePred IsSurrogate :=
  fun _ => inferInstanceAs (Decidable (_ ∧ _))

def hexDigit (n : Nat) : CodePoint :=
  ofChar (if n < 10 then Char.ofNat (48 + n) else Char.ofNat (87 + n))

/-- The octets of one code point; a surrogate gets the three octets that its number asks for. -/
def utf8 (c : CodePoint) : Bytes :=
  let continuation (n : Nat) : UInt8 := UInt8.ofNat (0x80 + n % 64)
  if c.val < 0x80 then [UInt8.ofNat c.val]
  else if c.val < 0x800 then [UInt8.ofNat (0xC0 + c.val / 64), continuation c.val]
  else if c.val < 0x10000 then
    [UInt8.ofNat (0xE0 + c.val / 4096), continuation (c.val / 64), continuation c.val]
  else
    [UInt8.ofNat (0xF0 + c.val / 262144), continuation (c.val / 4096), continuation (c.val / 64),
      continuation c.val]

end CodePoint

namespace Text

def ofString (s : String) : Text :=
  s.toList.map CodePoint.ofChar

instance : Coe String Text := ⟨ofString⟩

def toString (t : Text) : String :=
  String.ofList (t.map CodePoint.toChar)

def fourDigits (n : Nat) : Text :=
  [n / 4096 % 16, n / 256 % 16, n / 16 % 16, n % 16].map CodePoint.hexDigit

/-- A maximal run of surrogates, with the position and the number of its first code point. -/
structure SurrogateRun where
  start : Nat
  length : Nat
  first : CodePoint
deriving DecidableEq, Repr

def firstSurrogates? (t : Text) : Option SurrogateRun :=
  let before := t.takeWhile fun c => ¬c.IsSurrogate
  match t.dropWhile fun c => ¬c.IsSurrogate with
  | [] => none
  | c :: rest =>
      some ⟨before.length, 1 + (rest.takeWhile fun c => c.IsSurrogate).length, c⟩

def utf8 (t : Text) : Except SurrogateRun Bytes :=
  match t.firstSurrogates? with
  | some run => .error run
  | none => .ok (t.flatMap CodePoint.utf8)

end Text

end PakeRegistration
