import PakeRegistration.Proofs.Inversion

namespace PakeRegistration.Scalar

/-- Inversion is refused exactly where there is no inverse, and gives the inverse in lowest terms elsewhere. -/
structure InvertsExactly (scalar : Bytes) : Prop where
  refused_iff : (∃ e, invert scalar = .error e ∧ (Error.protocol e).category = .protocol) ↔ ¬Invertible scalar
  inverted (h : Invertible scalar) :
    ∃ inverse, invert scalar = .ok inverse ∧ Canonical inverse ∧
      Bytes.toNatLE scalar * Bytes.toNatLE inverse % order = 1

/-- The octets of the multiples of the order that a scalar's width has room for, from the order itself. -/
def zeroForms : List Bytes :=
  (List.range' 1 15).map fun k => Bytes.ofNatLE size (k * order)

theorem toNatLE_multiple {k : Nat} (h : k < 16) : Bytes.toNatLE (Bytes.ofNatLE size (k * order)) = k * order := by
  have hmax : 15 * order < Bytes.capacity size := by decide +kernel
  have hk : k * order ≤ 15 * order := Nat.mul_le_mul_right order (Nat.le_of_lt_succ h)
  have hlt : k * order < Bytes.capacity size := hk.trans_lt hmax
  rw [Bytes.toNatLE_ofNatLE, Nat.mod_eq_of_lt hlt]

theorem mem_zeroForms_iff (scalar : Bytes) :
    scalar ∈ zeroForms ↔ scalar.length = size ∧ scalar ≠ zero ∧ order ∣ Bytes.toNatLE scalar := by
  simp only [zeroForms, List.mem_map, List.mem_range'_1]
  constructor
  · rintro ⟨k, ⟨hpos, hlt⟩, rfl⟩
    have hl : (Bytes.ofNatLE size (k * order)).length = size := Bytes.ofNatLE_length size _
    have hvalue := toNatLE_multiple hlt
    rw [ne_eq, eq_zero_iff _ hl, hvalue]
    exact ⟨hl, Nat.ne_of_gt (Nat.mul_pos hpos order_pos), Nat.dvd_mul_left order k⟩
  · rintro ⟨hl, hz, k, hk⟩
    -- the width has no room for sixteen times the order
    have hroom : Bytes.capacity size ≤ order * 16 := by decide +kernel
    have hlt : order * k < order * 16 := by
      rw [← hk]
      exact Nat.lt_of_lt_of_le (hl ▸ Bytes.toNatLE_lt scalar) hroom
    have hpos : k ≠ 0 := by
      rintro rfl
      exact hz ((eq_zero_iff scalar hl).mpr hk)
    refine ⟨k, ⟨Nat.pos_of_ne_zero hpos, Nat.lt_of_mul_lt_mul_left hlt⟩, ?_⟩
    rw [Nat.mul_comm, ← hk, ← hl, Bytes.ofNatLE_toNatLE]

theorem not_invertible_of_mem {scalar : Bytes} (h : scalar ∈ zeroForms) : ¬Invertible scalar :=
  fun hi => hi.2 ((mem_zeroForms_iff scalar).mp h).2.2

theorem invert_of_mem {scalar : Bytes} (h : scalar ∈ zeroForms) : invert scalar = .ok zero := by
  obtain ⟨hl, hz, hd⟩ := (mem_zeroForms_iff scalar).mp h
  exact invert_of_dvd hl hz hd

theorem Invertible.exists_inverse {scalar : Bytes} (h : Invertible scalar) :
    ∃ inverse, invert scalar = .ok inverse ∧ Canonical inverse ∧
      Bytes.toNatLE scalar * Bytes.toNatLE inverse % order = 1 := by
  obtain ⟨m, hm, hmd, hone⟩ := h.exists_invert
  refine ⟨_, hm, canonical_ofNat m hmd, ?_⟩
  rw [toNatLE_ofNat, Nat.mul_mod_mod, hone]

theorem invert_of_not_mem {scalar : Bytes} (hi : ¬Invertible scalar) (h : scalar ∉ zeroForms) :
    invert scalar = .error .zeroInversion :=
  (invert_of_not_invertible hi).resolve_right fun hform => h ((mem_zeroForms_iff scalar).mpr hform)

theorem invertsExactly_iff (scalar : Bytes) : InvertsExactly scalar ↔ scalar ∉ zeroForms := by
  constructor
  · intro hexact h
    obtain ⟨e, he, _⟩ := hexact.refused_iff.mpr (not_invertible_of_mem h)
    rw [invert_of_mem h] at he
    cases he
  · intro h
    refine ⟨⟨?_, fun hi => ⟨_, invert_of_not_mem hi h, rfl⟩⟩, Invertible.exists_inverse⟩
    rintro ⟨e, he, _⟩ hi
    obtain ⟨inverse, hinverse, _⟩ := hi.exists_inverse
    rw [hinverse] at he
    cases he

/-- Inversion is exact but for fifteen octet strings. They are the octets of a multiple of the order that are not
written as zero; and what is given for their inverse is zero. -/
theorem invert_exact_off_zeroForms (scalar : Bytes) :
    (InvertsExactly scalar ↔ scalar ∉ zeroForms) ∧
      (scalar ∈ zeroForms ↔ scalar.length = size ∧ scalar ≠ zero ∧ order ∣ Bytes.toNatLE scalar) ∧
      (scalar ∈ zeroForms → invert scalar = .ok zero) :=
  ⟨invertsExactly_iff scalar, mem_zeroForms_iff scalar, invert_of_mem⟩

theorem invert_exact_off_zeroForms_at_bounds :
    Bytes.ofNatLE size (15 * order) ∈ zeroForms ∧ ¬InvertsExactly (Bytes.ofNatLE size (15 * order)) ∧
      invert (Bytes.ofNatLE size (15 * order)) = .ok zero ∧ InvertsExactly (Bytes.ofNatLE size (order + 2)) := by
  have hlast : Bytes.ofNatLE size (15 * order) ∈ zeroForms := by decide +kernel
  have htwo : Bytes.ofNatLE size (order + 2) ∉ zeroForms := by decide +kernel
  obtain ⟨hexact, _, hzero⟩ := invert_exact_off_zeroForms (Bytes.ofNatLE size (15 * order))
  obtain ⟨hexact', _⟩ := invert_exact_off_zeroForms (Bytes.ofNatLE size (order + 2))
  exact ⟨hlast, fun h => hexact.mp h hlast, hzero hlast, hexact'.mpr htwo⟩

/-- The order is zero to its own modulus and is inverted all the same. -/
theorem not_invertsExactly_order :
    Bytes.toNatLE (Bytes.ofNatLE size order) % order = 0 ∧ invert (Bytes.ofNatLE size order) = .ok zero ∧
      ¬InvertsExactly (Bytes.ofNatLE size order) := by
  have hmem : Bytes.ofNatLE size order ∈ zeroForms := by decide +kernel
  exact ⟨by decide +kernel, invert_of_mem hmem, fun h => (invertsExactly_iff _).mp h hmem⟩

end PakeRegistration.Scalar
