import Mathlib.Algebra.Field.ZMod
import Mathlib.Logic.Equiv.Basic
import PakeRegistration.Client
import PakeRegistration.Proofs.Oprf
import PakeRegistration.Ristretto255

/-!
Lawful groups whose elements are the residues modulo the order. The encodings are canonical octets with some of them
renamed, so a group can agree with another one on as many elements as are listed. One such group agrees with
ristretto255 on what a short registration meets, another one on the generator doubled and halved again.
-/

namespace PakeRegistration.Residues

/-- Octets that stand in the place of a number's canonical octets. -/
structure Entry where
  number : Nat
  octets : Bytes

def Entry.Fits (entry : Entry) : Prop :=
  ¬Scalar.order ∣ entry.number ∧ entry.octets.length = PrimeGroup.elementSize ∧
    entry.octets ≠ PrimeGroup.identity

instance (entry : Entry) : Decidable entry.Fits :=
  inferInstanceAs (Decidable (_ ∧ _))

/-- Every entry's two octet strings exchanged, the last entry's first. -/
def relabel : List Entry → Equiv.Perm Bytes
  | [] => Equiv.refl Bytes
  | entry :: rest => (relabel rest).trans (Equiv.swap (Scalar.ofNat entry.number) entry.octets)

variable (table : List Entry)

def encode (n : Nat) : Bytes := relabel table (Scalar.ofNat n)

def decode? (octets : Bytes) : Option Nat :=
  let plain := (relabel table).symm octets
  if Scalar.ofNat (Bytes.toNatLE plain) = plain then some (Bytes.toNatLE plain) else none

/-- The residues under addition, generated by a base; uniform octets go where the map sends them. -/
def group (base : Nat) (uniform : Bytes → Nat) : PrimeGroup where
  isElement octets := (decode? table octets).isSome
  ofUniform octets := encode table (uniform octets)
  multiple? n octets := (decode? table octets).map fun m => encode table (n * m)
  baseMultiple n := encode table (n * base)

variable {table}

theorem relabel_identity (h : ∀ entry ∈ table, entry.Fits) :
    relabel table PrimeGroup.identity = PrimeGroup.identity := by
  induction table with
  | nil => rfl
  | cons entry rest ih =>
      obtain ⟨hn, _, ho⟩ := h entry (by simp)
      have hne : PrimeGroup.identity ≠ Scalar.ofNat entry.number :=
        fun he => hn ((Scalar.ofNat_eq_zero_iff entry.number).mp he.symm)
      rw [relabel, Equiv.trans_apply, ih fun e he => h e (by simp [he]), Equiv.swap_apply_of_ne_of_ne hne ho.symm]

theorem relabel_length (h : ∀ entry ∈ table, entry.Fits) (octets : Bytes)
    (hl : octets.length = PrimeGroup.elementSize) : (relabel table octets).length = PrimeGroup.elementSize := by
  induction table with
  | nil => exact hl
  | cons entry rest ih =>
      obtain ⟨_, ho, _⟩ := h entry (by simp)
      have hrest := ih fun e he => h e (by simp [he])
      rw [relabel, Equiv.trans_apply, Equiv.swap_apply_def]
      split
      · exact ho
      · split
        · exact Scalar.ofNat_length entry.number
        · exact hrest

theorem encode_injective_mod {m n : Nat} (h : encode table m = encode table n) :
    m % Scalar.order = n % Scalar.order :=
  (Scalar.ofNat_eq_ofNat_iff m n).mp ((relabel table).injective h)

theorem decode_encode (n : Nat) : decode? table (encode table n) = some (n % Scalar.order) := by
  rw [decode?, encode, Equiv.symm_apply_apply, if_pos (Scalar.ofNat_toNatLE_ofNat n), Scalar.toNatLE_ofNat]

theorem encode_of_decode {octets : Bytes} {n : Nat} (h : decode? table octets = some n) :
    encode table n = octets := by
  simp only [decode?] at h
  split at h
  next hc =>
    cases h
    rw [encode, hc, Equiv.apply_symm_apply]
  · cases h

theorem encode_mod (n : Nat) : encode table (n % Scalar.order) = encode table n := by
  rw [encode, Scalar.ofNat_mod, encode]

instance : Fact Scalar.order.Prime := ⟨Scalar.order_prime⟩

theorem encode_nsmul (n : Nat) (x : ZMod Scalar.order) : encode table (n • x).val = encode table (n * x.val) := by
  rw [nsmul_eq_mul, ZMod.val_mul, ZMod.val_natCast, ← encode_mod (n * x.val), Nat.mod_mul_mod]

def interpretation (h : ∀ entry ∈ table, entry.Fits) (base : Nat) (hb : ¬Scalar.order ∣ base)
    (uniform : Bytes → Nat) : (group table base uniform).Interpretation (ZMod Scalar.order) where
  encode x := encode table x.val
  generator := base
  card := Nat.card_zmod _
  encode_injective x y hxy := by
    have hmod := encode_injective_mod hxy
    rw [Nat.mod_eq_of_lt x.val_lt, Nat.mod_eq_of_lt y.val_lt] at hmod
    exact ZMod.val_injective _ hmod
  encode_length x := relabel_length h _ (Scalar.ofNat_length x.val)
  encode_zero := by
    have hz : Scalar.ofNat 0 = PrimeGroup.identity := (Scalar.ofNat_eq_zero_iff 0).mpr (dvd_zero _)
    rw [ZMod.val_zero, encode, hz, relabel_identity h]
  isElement_iff octets := by
    constructor
    · intro hs
      obtain ⟨n, hn⟩ := Option.isSome_iff_exists.mp hs
      refine ⟨(n : ZMod Scalar.order), ?_⟩
      rw [ZMod.val_natCast, encode_mod, encode_of_decode hn]
    · rintro ⟨x, rfl⟩
      exact Option.isSome_iff_exists.mpr ⟨_, decode_encode x.val⟩
  generator_ne_zero := by
    rw [ne_eq, ZMod.natCast_eq_zero_iff]
    exact hb
  ofUniform_eq octets _ := ⟨(uniform octets : ZMod Scalar.order), by
    rw [ZMod.val_natCast, encode_mod]
    rfl⟩
  multiple_encode n _ x := by
    rw [encode_nsmul]
    simp only [group, decode_encode, Option.map_some, Nat.mod_eq_of_lt x.val_lt]
  multiple_none n octets hne := by
    have hd : decode? table octets = none := by
      rw [Option.eq_none_iff_forall_ne_some]
      intro m hm
      apply hne (m : ZMod Scalar.order)
      rw [ZMod.val_natCast, encode_mod, encode_of_decode hm]
    simp only [group, hd, Option.map_none]
  baseMultiple_eq n _ := by
    rw [encode_nsmul, ZMod.val_natCast, ← encode_mod, Nat.mul_mod_mod, encode_mod]
    rfl

theorem group_lawful (h : ∀ entry ∈ table, entry.Fits) (base : Nat) (hb : ¬Scalar.order ∣ base)
    (uniform : Bytes → Nat) : (group table base uniform).Lawful :=
  ⟨_, _, ⟨interpretation h base hb uniform⟩⟩

/-- The element of the password pw under ristretto255. -/
def sampleInput : Bytes :=
  [0x64, 0xc4, 0x54, 0x64, 0xe9, 0x06, 0xc1, 0x18, 0xd0, 0x85, 0x29, 0x27, 0xda, 0x46, 0xb1, 0x67,
    0xa2, 0x88, 0x88, 0x4a, 0x31, 0x41, 0xf0, 0x80, 0x1b, 0x6a, 0xee, 0x14, 0xb7, 0x5a, 0xcc, 0x20]

def sampleBlinded : Bytes :=
  [0x12, 0xf2, 0x99, 0x92, 0xbd, 0x69, 0x16, 0xff, 0x5e, 0xb7, 0xcf, 0x17, 0x21, 0x0c, 0x83, 0x0a,
    0x09, 0x8f, 0x12, 0xb4, 0x94, 0x88, 0x2e, 0x1e, 0x02, 0x2b, 0x40, 0x09, 0x54, 0x68, 0xa1, 0x69]

def sampleElement : Bytes :=
  [0x5c, 0xc7, 0x86, 0x77, 0x86, 0x18, 0x5b, 0xbf, 0x73, 0xba, 0xbe, 0xbf, 0x72, 0x48, 0x81, 0xd0,
    0xd5, 0xd6, 0x14, 0x06, 0x31, 0xf8, 0x85, 0x33, 0x99, 0x1a, 0x0f, 0x7b, 0x57, 0xf8, 0x9b, 0x09]

def sampleEvaluated : Bytes :=
  [0x56, 0x2f, 0x43, 0x18, 0x62, 0xf0, 0xf4, 0xc9, 0x08, 0xd4, 0x8c, 0x19, 0xfe, 0x33, 0xd6, 0xe5,
    0x0d, 0xe1, 0x97, 0xe9, 0x85, 0x9e, 0x1d, 0xdf, 0x4b, 0x2a, 0xaa, 0xff, 0x0a, 0x51, 0xb7, 0x17]

/-- The client's private key in the end, for the least costs of the slow hash. -/
def samplePrivateKey : Nat := 6440761335660193165989260302216346879279226374095078479116871438685038631643

def samplePublicKey : Bytes :=
  [0x5c, 0xab, 0x61, 0xd1, 0x47, 0xaf, 0x32, 0x25, 0x94, 0xca, 0x12, 0x83, 0x91, 0xae, 0x28, 0xd7,
    0xbe, 0x64, 0xbc, 0x29, 0xd8, 0x2e, 0xd1, 0x29, 0x43, 0x31, 0x46, 0xef, 0x38, 0xf8, 0xa3, 0x6d]

def sampleTable : List Entry :=
  [⟨1, sampleInput⟩, ⟨2, sampleBlinded⟩, ⟨3, sampleElement⟩, ⟨6, sampleEvaluated⟩,
    ⟨7, Ristretto255.generatorOctets⟩, ⟨7 * samplePrivateKey, samplePublicKey⟩]

def sample : PrimeGroup := group sampleTable 7 fun _ => 1

theorem sample_lawful : sample.Lawful :=
  group_lawful (by decide +kernel) 7 (by decide +kernel) fun _ => 1

/-- The sample group does what ristretto255 does on everything that the registration of this password meets. -/
theorem sample_agrees :
    Oprf.hashToGroup sample (Bytes.ascii "pw") = Oprf.hashToGroup Ristretto255.group (Bytes.ascii "pw") ∧
      sample.multiple? 2 sampleInput = Ristretto255.group.multiple? 2 sampleInput ∧
      sample.multiple? 3 sampleInput = Ristretto255.group.multiple? 3 sampleInput ∧
      sample.multiple? 3 sampleBlinded = Ristretto255.group.multiple? 3 sampleBlinded ∧
      Oprf.finalize sample (Bytes.ascii "pw") (Scalar.ofNat 2) sampleEvaluated =
        Oprf.finalize Ristretto255.group (Bytes.ascii "pw") (Scalar.ofNat 2) sampleEvaluated ∧
      sample.baseMultiple samplePrivateKey = Ristretto255.group.baseMultiple samplePrivateKey ∧
      sample.isElement sampleEvaluated = Ristretto255.group.isElement sampleEvaluated ∧
      sample.isElement Ristretto255.generatorOctets =
        Ristretto255.group.isElement Ristretto255.generatorOctets := by
  decide +kernel

def sampleSuite : CipherSuite := ⟨sample, { memoryCost := 8, timeCost := 1 }⟩

/-- A source whose first draw is thrown away. -/
def sampleSource : RandomSource := fun call _ => .octets (Bytes.ofNatLE 64 (if call = 1 then 0 else 2))

def sampleStarted : Client.Started :=
  ⟨⟨sampleBlinded⟩, { blind := Scalar.ofNat 2, password := Bytes.ascii "pw" }⟩

def twiceGenerator : Bytes :=
  [0x6a, 0x49, 0x32, 0x10, 0xf7, 0x49, 0x9c, 0xd1, 0x7f, 0xec, 0xb5, 0x10, 0xae, 0x0c, 0xea, 0x23,
    0xa1, 0x10, 0xe8, 0xd5, 0xb9, 0x01, 0xf8, 0xac, 0xad, 0xd3, 0x09, 0x5c, 0x73, 0xa3, 0xb9, 0x19]

def fourTimesGenerator : Bytes :=
  [0xda, 0x80, 0x86, 0x27, 0x73, 0x35, 0x8b, 0x46, 0x6f, 0xfa, 0xdf, 0xe0, 0xb3, 0x29, 0x3a, 0xb3,
    0xd9, 0xfd, 0x53, 0xc5, 0xea, 0x6c, 0x95, 0x53, 0x58, 0xf5, 0x68, 0x32, 0x2d, 0xaf, 0x6a, 0x57]

def doublings : PrimeGroup :=
  group [⟨1, Ristretto255.generatorOctets⟩, ⟨2, twiceGenerator⟩, ⟨4, fourTimesGenerator⟩] 1 fun _ => 1

theorem doublings_lawful : doublings.Lawful :=
  group_lawful (by decide +kernel) 1 (by decide +kernel) fun _ => 1

def half : Nat := (Scalar.order + 1) / 2

theorem doublings_agrees :
    doublings.isElement twiceGenerator = Ristretto255.group.isElement twiceGenerator ∧
      (∀ octets ∈ [Ristretto255.generatorOctets, twiceGenerator],
        doublings.multiple? 2 octets = Ristretto255.group.multiple? 2 octets) ∧
      ∀ octets ∈ [twiceGenerator, fourTimesGenerator],
        doublings.multiple? half octets = Ristretto255.group.multiple? half octets := by
  decide +kernel

end PakeRegistration.Residues
