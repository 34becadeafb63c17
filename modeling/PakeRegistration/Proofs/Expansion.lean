import PakeRegistration.Proofs.Oprf

namespace PakeRegistration

open Outcome

namespace Bytes

theorem xor_zeros {bytes : Bytes} {count : Nat} (h : bytes.length ≤ count) : xor bytes (zeros count) = bytes := by
  induction bytes generalizing count with
  | nil => rfl
  | cons b bytes ih =>
      cases count with
      | zero => simp at h
      | succ count =>
          have htail : xor bytes (zeros count) = bytes := ih (Nat.le_of_succ_le_succ h)
          simp_all [xor, zeros, List.replicate_succ]

theorem ofNatBE_one (value : Nat) : ofNatBE 1 value = [UInt8.ofNat value] := by
  have hmod : UInt8.ofNat (value % 256) = UInt8.ofNat value := UInt8.ofNat_mod_size
  simp [ofNatBE, ofNatLE, hmod]

end Bytes

namespace Expander

def closing (tag : Bytes) : Bytes := tag ++ Bytes.ofNatBE 1 tag.length

section

variable (message tag : Bytes) (length : Nat)

def firstInput : Bytes := Bytes.zeros 128 ++ message ++ Bytes.ofNatBE 2 length ++ [0] ++ closing tag

def input : Nat → Bytes
  | 0 => firstInput message tag length
  | 1 => Sha512.hash (firstInput message tag length) ++ [1] ++ closing tag
  | index + 2 =>
      Bytes.xor (Sha512.hash (firstInput message tag length)) (Sha512.hash (input (index + 1))) ++
        Bytes.ofNatBE 1 (index + 2) ++ closing tag

def digest (index : Nat) : Bytes := Sha512.hash (input message tag length index)

/-- What the seed is mixed with for the digest after this one. -/
def carried : Nat → Bytes
  | 0 => Bytes.zeros Sha512.digestSize
  | index + 1 => digest message tag length (index + 1)

theorem input_succ (index : Nat) :
    input message tag length (index + 1) =
      linkInput (digest message tag length 0) (closing tag) (carried message tag length index) (index + 1) := by
  cases index with
  | zero =>
      have hxor : Bytes.xor (digest message tag length 0) (Bytes.zeros Sha512.digestSize) =
          digest message tag length 0 := Bytes.xor_zeros (Nat.le_of_eq (Sha512.hash_length _))
      rw [linkInput, carried, hxor]
      rfl
  | succ index =>
      rw [linkInput, ← Bytes.ofNatBE_one]
      rfl

theorem chain_eq (index count : Nat) :
    chain (digest message tag length 0) (closing tag) (carried message tag length index) (index + 1) count =
      (List.range' (index + 1) count).flatMap (digest message tag length) := by
  induction count generalizing index with
  | zero => rfl
  | succ count ih =>
      rw [chain, ← input_succ, List.range'_succ, List.flatMap_cons]
      exact congrArg (digest message tag length (index + 1) ++ ·) (ih (index + 1))

theorem expand_eq_digests (hl : length ≤ 16320) (ht : tag.length ≤ 255) :
    expand message tag length =
      .ok (((List.range' 1 ((length + 63) / 64)).flatMap (digest message tag length)).take length) := by
  rw [← chain_eq]
  exact expand_natCast message tag length hl ht

end

variable (message tag : Bytes) (length : Int)

theorem expand_of_long (h : 16320 < length) : expand message tag length = .error (.expansion length) := by
  have hcount : (maxBlocks : Int) < -(-length / 64) := by
    simp only [maxBlocks]
    omega
  simp only [expand, hcount, true_or, if_true, throw_eq, error_bind]

theorem expand_of_long_tag (hl : length ≤ 16320) (h : 255 < tag.length) :
    expand message tag length = .error (.tag tag.length) := by
  have hcount : ¬((maxBlocks : Int) < -(-length / 64) ∨ 65535 < length) := by
    simp only [maxBlocks]
    omega
  have htag : maxTag < tag.length := h
  simp only [expand, hcount, htag, if_false, if_true, throw_eq, error_bind]

theorem expand_of_negative (h : length < 0) (ht : tag.length ≤ 255) :
    expand message tag length = .error (.integer length 2) := by
  have hcount : ¬((maxBlocks : Int) < -(-length / 64) ∨ 65535 < length) := by
    simp only [maxBlocks]
    omega
  have htag : ¬maxTag < tag.length := Nat.not_lt.mpr ht
  have hlength : FixedWidth.encode length 2 = .error (.integer length 2) := by rw [FixedWidth.encode, if_pos h]
  have hoctet : FixedWidth.encode tag.length 1 = .ok (Bytes.ofNatBE 1 tag.length) :=
    FixedWidth.encode_of_lt tag.length 1 (by decide) (Nat.lt_of_le_of_lt ht (by decide))
  simp only [expand, hcount, htag, hoctet, hlength, if_false, ok_bind, error_bind]

/-- Of the three faults an over-long length is the first one, and a negative length the last. -/
theorem expand_eq_ite :
    expand message tag length =
      if 16320 < length then .error (.expansion length)
      else if 255 < tag.length then .error (.tag tag.length)
      else if length < 0 then .error (.integer length 2)
      else .ok (((List.range' 1 ((length.toNat + 63) / 64)).flatMap (digest message tag length.toNat)).take
        length.toNat) := by
  split
  next hlong => exact expand_of_long message tag length hlong
  next hlong =>
    split
    next htag => exact expand_of_long_tag message tag length (by omega) htag
    next htag =>
      split
      next hnegative => exact expand_of_negative message tag length hnegative (by omega)
      next hnegative =>
        have hnat := expand_eq_digests message tag length.toNat (by omega) (by omega)
        rwa [Int.toNat_of_nonneg (by omega)] at hnat

theorem expand_error_iff :
    (∃ e, expand message tag length = .error e ∧ (Error.range e).category = .value) ↔
      length < 0 ∨ 16320 < length ∨ 255 < tag.length := by
  rw [expand_eq_ite]
  constructor
  · rintro ⟨e, he, -⟩
    split at he
    · omega
    · split at he
      · omega
      · split at he
        · omega
        · cases he
  · intro h
    split
    · exact ⟨_, rfl, rfl⟩
    · split
      · exact ⟨_, rfl, rfl⟩
      · rw [if_pos (by omega)]
        exact ⟨_, rfl, rfl⟩

theorem bounds_of_expand {uniform : Bytes} (h : expand message tag length = .ok uniform) :
    0 ≤ length ∧ length ≤ 16320 ∧ tag.length ≤ 255 := by
  by_contra hb
  obtain ⟨e, he, -⟩ := (expand_error_iff message tag length).mpr (by omega)
  rw [h] at he
  cases he

theorem length_of_expand {uniform : Bytes} (h : expand message tag length = .ok uniform) :
    (uniform.length : Int) = length := by
  obtain ⟨hnonneg, hl, ht⟩ := bounds_of_expand message tag length h
  obtain ⟨found, hfound, hlength⟩ := exists_expand message tag length.toNat (by omega) ht
  rw [Int.toNat_of_nonneg hnonneg, h] at hfound
  rw [Except.ok.inj hfound, hlength]
  omega

theorem encode_of_bounds (hnonneg : 0 ≤ length) (hl : length ≤ 16320) (ht : tag.length ≤ 255) :
    FixedWidth.encode tag.length 1 = .ok (Bytes.ofNatBE 1 tag.length) ∧
      FixedWidth.encode length 2 = .ok (Bytes.ofNatBE 2 length.toNat) ∧
      ∀ index : Nat, index ≤ (length.toNat + 63) / 64 → FixedWidth.encode index 1 = .ok [UInt8.ofNat index] := by
  have hone : Bytes.capacity 1 = 256 := by decide
  have htwo : Bytes.capacity 2 = 65536 := by decide
  refine ⟨FixedWidth.encode_of_lt _ 1 (by decide) (by omega), ?_, fun index hi => ?_⟩
  · have hlength := FixedWidth.encode_of_lt length.toNat 2 (by decide) (by omega)
    rwa [Int.toNat_of_nonneg hnonneg] at hlength
  · rw [← Bytes.ofNatBE_one]
    exact FixedWidth.encode_of_lt index 1 (by decide) (by omega)

theorem exists_uniform (ht : tag.length ≤ 255) :
    ∃ uniform, uniform.length = 64 ∧ expand message tag 64 = .ok uniform ∧
      Scalar.hash message tag = .ok (Scalar.ofNat (Bytes.toNatLE uniform)) ∧
      ∀ G : PrimeGroup, G.hash message tag = .ok (G.ofUniform uniform) := by
  obtain ⟨uniform, hu, hl⟩ := exists_expand message tag Scalar.uniformSize (by decide) ht
  refine ⟨uniform, hl, hu, ?_, fun G => ?_⟩
  · simp [Scalar.hash, hu, Scalar.reduce, hl]
  · simp [PrimeGroup.hash, hu]

/-- Expansion is the first octets of the digests, for every message; it is refused for its length and its tag alone,
and by nothing that is written within it. -/
theorem expand_exact :
    (expand message tag length =
        if 16320 < length then .error (.expansion length)
        else if 255 < tag.length then .error (.tag tag.length)
        else if length < 0 then .error (.integer length 2)
        else .ok (((List.range' 1 ((length.toNat + 63) / 64)).flatMap (digest message tag length.toNat)).take
          length.toNat)) ∧
      ((∃ e, expand message tag length = .error e ∧ (Error.range e).category = .value) ↔
        length < 0 ∨ 16320 < length ∨ 255 < tag.length) ∧
      (∀ uniform, expand message tag length = .ok uniform → (uniform.length : Int) = length) ∧
      (0 ≤ length → length ≤ 16320 → tag.length ≤ 255 →
        FixedWidth.encode tag.length 1 = .ok (Bytes.ofNatBE 1 tag.length) ∧
          FixedWidth.encode length 2 = .ok (Bytes.ofNatBE 2 length.toNat) ∧
          ∀ index : Nat, index ≤ (length.toNat + 63) / 64 → FixedWidth.encode index 1 = .ok [UInt8.ofNat index]) ∧
      (tag.length ≤ 255 → ∃ uniform, uniform.length = 64 ∧ expand message tag 64 = .ok uniform ∧
        Scalar.hash message tag = .ok (Scalar.ofNat (Bytes.toNatLE uniform)) ∧
        ∀ G : PrimeGroup, G.hash message tag = .ok (G.ofUniform uniform)) ∧
      ∀ G : PrimeGroup, ∃ uniform, uniform.length = 64 ∧ Oprf.hashToGroup G message = .ok (G.ofUniform uniform) :=
  ⟨expand_eq_ite message tag length, expand_error_iff message tag length,
    fun _ h => length_of_expand message tag length h, encode_of_bounds tag length, exists_uniform message tag,
    fun G => Oprf.exists_hashToGroup G message⟩

def sampleTag : Bytes := Bytes.ascii "QUUX-V01-CS02-with-expander-SHA512-256"

theorem expand_exact_sample :
    expand [] sampleTag 32 =
        .ok [0x6b, 0x9a, 0x73, 0x12, 0x41, 0x1d, 0x92, 0xf9, 0x21, 0xc6, 0xf6, 0x8c, 0xa0, 0xb6, 0x38, 0x07,
          0x30, 0xa1, 0xa4, 0xd9, 0x82, 0xc5, 0x07, 0x21, 0x1a, 0x90, 0x96, 0x4c, 0x39, 0x41, 0x79, 0xba] ∧
      FixedWidth.encode (255 : Nat) 1 = .ok [UInt8.ofNat 255] ∧
      expand [] sampleTag 16321 = .error (.expansion 16321) ∧
      expand [] (Bytes.zeros 256) (-1) = .error (.tag 256) := by
  obtain ⟨hsample, _⟩ := expand_exact [] sampleTag 32
  obtain ⟨_, _, _, hfits, _⟩ := expand_exact [] sampleTag 16320
  obtain ⟨hlong, _⟩ := expand_exact [] sampleTag 16321
  obtain ⟨hnegative, _⟩ := expand_exact [] (Bytes.zeros 256) (-1)
  obtain ⟨_, _, hindex⟩ := hfits (by decide) (by decide) (by decide)
  exact ⟨hsample.trans (by decide +kernel), hindex 255 (by omega), hlong.trans (if_pos (by decide)),
    hnegative.trans (by simp)⟩

end Expander

end PakeRegistration
