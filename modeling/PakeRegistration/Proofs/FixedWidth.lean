import PakeRegistration.Bytes.FixedWidth
import PakeRegistration.Proofs.Fields

namespace PakeRegistration.FixedWidth

theorem encode_natCast (value width : Nat) (hw : width ≤ maxWidth) :
    encode value width =
      if value < Bytes.capacity width then .ok (Bytes.ofNatBE width value) else .error (.integer value width) := by
  have hmax : ¬(maxWidth : Int) < width := by omega
  rw [encode, if_neg (by omega), if_neg (by omega), if_neg hmax]
  by_cases h : value < Bytes.capacity width
  · have hle : ¬(Bytes.capacity width : Int) ≤ value := by omega
    simp only [Int.toNat_natCast, hle, h, if_false, if_true]
  · have hle : (Bytes.capacity width : Int) ≤ value := by omega
    simp only [Int.toNat_natCast, hle, h, if_false, if_true]

theorem encode_of_lt (value width : Nat) (hw : width ≤ maxWidth) (h : value < Bytes.capacity width) :
    encode value width = .ok (Bytes.ofNatBE width value) := by
  rw [encode_natCast value width hw, if_pos h]

theorem encode_of_le (value width : Nat) (hw : width ≤ maxWidth) (h : Bytes.capacity width ≤ value) :
    encode value width = .error (.integer value width) := by
  rw [encode_natCast value width hw, if_neg (Nat.not_lt.mpr h)]

theorem encode_of_negative {value : Int} (h : value < 0) (width : Int) :
    encode value width = .error (.integer value width) :=
  if_pos h

theorem encode_of_negative_width {value width : Int} (hv : 0 ≤ value) (hw : width < 0) :
    encode value width = .error .negativeWidth := by
  rw [encode, if_neg (Int.not_lt.mpr hv), if_pos hw]

theorem encode_of_wide {value width : Int} (hv : 0 ≤ value) (hw : maxWidth < width) :
    encode value width = .error .digitCount := by
  have hpositive : (0 : Int) ≤ width := Int.le_trans (Int.natCast_nonneg maxWidth) (Int.le_of_lt hw)
  rw [encode, if_neg (Int.not_lt.mpr hv), if_neg (Int.not_lt.mpr hpositive), if_pos hw]

theorem encode_eq_ok_iff {width : Nat} (hw : width ≤ maxWidth) (value : Int) (octets : Bytes) :
    encode value width = .ok octets ↔ octets.length = width ∧ Bytes.toNatBE octets = value := by
  constructor
  · intro h
    obtain ⟨n, rfl⟩ : ∃ n : Nat, value = n := by
      refine Int.eq_ofNat_of_zero_le (Int.not_lt.mp fun hv => ?_)
      rw [encode_of_negative hv] at h
      cases h
    rw [encode_natCast n width hw] at h
    split at h
    next hn =>
      cases h
      rw [Bytes.toNatBE_ofNatBE width n hn]
      exact ⟨Bytes.ofNatBE_length width n, rfl⟩
    · cases h
  · rintro ⟨rfl, rfl⟩
    rw [encode_of_lt _ _ hw (Bytes.toNatBE_lt octets), Bytes.ofNatBE_toNatBE]

theorem exists_encode_iff {width : Nat} (hw : width ≤ maxWidth) (value : Int) :
    (∃ octets, encode value width = .ok octets) ↔ 0 ≤ value ∧ value < Bytes.capacity width := by
  simp only [encode_eq_ok_iff hw]
  constructor
  · rintro ⟨octets, rfl, rfl⟩
    exact ⟨Int.natCast_nonneg _, Int.ofNat_lt.mpr (Bytes.toNatBE_lt octets)⟩
  · rintro ⟨hv, hlt⟩
    obtain ⟨n, rfl⟩ := Int.eq_ofNat_of_zero_le hv
    have hread := Bytes.toNatBE_ofNatBE width n (Int.ofNat_lt.mp hlt)
    exact ⟨Bytes.ofNatBE width n, Bytes.ofNatBE_length width n, congrArg Nat.cast hread⟩

def Refused (c : Category) (x : Except RangeError Bytes) : Prop :=
  ∃ e, x = .error e ∧ (Error.range e).category = c

/-- The integers of a range and the octet strings of a width stand for each other, and no other integers have octets. -/
structure Bijective (width : Nat) : Prop where
  accepted_iff (value : Int) :
    (∃ octets, encode value width = .ok octets) ↔ 0 ≤ value ∧ value < Bytes.capacity width
  value_eq (value : Int) (octets : Bytes) (h : encode value width = .ok octets) :
    octets.length = width ∧ Bytes.toNatBE octets = value
  injective (value value' : Int) (octets : Bytes) (h : encode value width = .ok octets)
    (h' : encode value' width = .ok octets) : value = value'
  surjective (octets : Bytes) (h : octets.length = width) : ∃ value, encode value width = .ok octets
  refused (value : Int) (h : ¬(0 ≤ value ∧ value < Bytes.capacity width)) : Refused .value (encode value width)

theorem bijective {width : Nat} (hw : width ≤ maxWidth) : Bijective width where
  accepted_iff := exists_encode_iff hw
  value_eq value octets h := (encode_eq_ok_iff hw value octets).mp h
  injective value value' octets h h' := by
    obtain ⟨_, hvalue⟩ := (encode_eq_ok_iff hw value octets).mp h
    obtain ⟨_, hvalue'⟩ := (encode_eq_ok_iff hw value' octets).mp h'
    rw [← hvalue, ← hvalue']
  surjective octets h := ⟨_, (encode_eq_ok_iff hw _ octets).mpr ⟨h, rfl⟩⟩
  refused value h := by
    by_cases hv : value < 0
    · exact ⟨_, encode_of_negative hv width, rfl⟩
    · obtain ⟨n, rfl⟩ := Int.eq_ofNat_of_zero_le (Int.not_lt.mp hv)
      have hle : Bytes.capacity width ≤ n :=
        Nat.not_lt.mp fun hlt => h ⟨Int.natCast_nonneg n, Int.ofNat_lt.mpr hlt⟩
      exact ⟨_, encode_of_le n width hw hle, rfl⟩

/-- At the widths whose capacity an integer has digits for, encoding is a bijection between the integers of the range
and the octet strings of the width. At a negative width every integer is refused as a value of no range is, and at a
width that is too great a negative one is; the others are refused there for the want of digits. -/
theorem encode_bijective :
    (∀ width : Nat, width ≤ maxWidth → Bijective width) ∧
      (∀ value width : Int, width < 0 → Refused .value (encode value width)) ∧
      ∀ value width : Int, maxWidth < width →
        Refused (if value < 0 then .value else .overflow) (encode value width) := by
  refine ⟨fun width hw => bijective hw, fun value width hw => ?_, fun value width hw => ?_⟩
  · by_cases hv : value < 0
    · exact ⟨_, encode_of_negative hv width, rfl⟩
    · exact ⟨_, encode_of_negative_width (Int.not_lt.mp hv) hw, rfl⟩
  · by_cases hv : value < 0
    · rw [if_pos hv]
      exact ⟨_, encode_of_negative hv width, rfl⟩
    · rw [if_neg hv]
      exact ⟨_, encode_of_wide (Int.not_lt.mp hv) hw, rfl⟩

theorem encode_bijective_at_bounds :
    (∃ octets, encode 65535 2 = .ok octets) ∧ (¬∃ octets, encode 65536 2 = .ok octets) ∧
      (∃ value, encode value 2 = .ok [0x12, 0x34]) ∧ Refused .value (encode 65536 2) ∧
      (∃ octets, encode 0 0 = .ok octets) ∧ Refused .value (encode 1 0) ∧ Refused .value (encode 0 (-1)) ∧
      (∃ octets, encode 1 8646911284551352290 = .ok octets) ∧ Refused .overflow (encode 1 8646911284551352291) ∧
      Refused .value (encode (-1) 8646911284551352291) := by
  obtain ⟨hbijective, hnegative, hwide⟩ := encode_bijective
  have htwo := hbijective 2 (by decide)
  have hnone := hbijective 0 (by decide)
  have hgreatest := hbijective 8646911284551352290 (by decide)
  have hout : ¬∃ octets, encode 65536 2 = .ok octets := fun h =>
    absurd ((htwo.accepted_iff 65536).mp h) (by decide)
  have hone : (1 : Int) < Bytes.capacity 8646911284551352290 := Int.ofNat_lt.mpr (Bytes.one_lt_capacity (by decide))
  exact ⟨(htwo.accepted_iff 65535).mpr (by decide), hout, htwo.surjective _ rfl, htwo.refused 65536 (by decide),
    (hnone.accepted_iff 0).mpr (by decide), hnone.refused 1 (by decide), hnegative 0 (-1) (by decide),
    (hgreatest.accepted_iff 1).mpr ⟨by decide, hone⟩, hwide 1 8646911284551352291 (by decide),
    hwide (-1) 8646911284551352291 (by decide)⟩

/-- One is in the range of every width but zero, and has no octets at a width that no integer has digits for. -/
theorem not_bijective_of_wide :
    (1 : Int) < Bytes.capacity 9223372036854775808 ∧ Refused .overflow (encode 1 9223372036854775808) ∧
      ¬Bijective 9223372036854775808 := by
  have hrange : (1 : Int) < Bytes.capacity 9223372036854775808 :=
    Int.ofNat_lt.mpr (Bytes.one_lt_capacity (by decide))
  have hrefused : encode 1 9223372036854775808 = .error .digitCount := by
    rw [encode_of_wide (by decide) (by decide)]
  refine ⟨hrange, ⟨_, hrefused, rfl⟩, fun h => ?_⟩
  obtain ⟨octets, hoctets⟩ := (h.accepted_iff 1).mpr ⟨by decide, hrange⟩
  rw [show ((9223372036854775808 : Nat) : Int) = 9223372036854775808 from rfl, hrefused] at hoctets
  cases hoctets

end PakeRegistration.FixedWidth
