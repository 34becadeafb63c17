import Mathlib.Data.List.Basic
import PakeRegistration.Bytes.Base64Url

namespace PakeRegistration.Base64Url

theorem digitValue?_digit (n : Nat) (h : n < 64) : digitValue? (digit n) = some n := by
  have htable : ∀ m : Fin 64, digitValue? (digit m) = some m.val := by decide
  exact htable ⟨n, h⟩

theorem not_isSurrogate_digit (n : Nat) (h : n < 64) : ¬(digit n).IsSurrogate := by
  have htable : ∀ m : Fin 64, ¬(digit m).IsSurrogate := by decide
  exact htable ⟨n, h⟩

theorem sextets_lt (bytes : Bytes) : ∀ n ∈ sextets bytes, n < 64 := by
  induction bytes using sextets.induct with
  | case1 a b c rest ih =>
      have ha := a.toNat_lt
      have hb := b.toNat_lt
      have hc := c.toNat_lt
      simp only [sextets, List.forall_mem_cons]
      exact ⟨by omega, by omega, by omega, by omega, ih⟩
  | case2 a b =>
      have ha := a.toNat_lt
      have hb := b.toNat_lt
      simp only [sextets, List.forall_mem_cons, List.not_mem_nil, false_implies, implies_true, and_true]
      omega
  | case3 a =>
      have ha := a.toNat_lt
      simp only [sextets, List.forall_mem_cons, List.not_mem_nil, false_implies, implies_true, and_true]
      omega
  | case4 => simp [sextets]

theorem octets_sextets (bytes : Bytes) : octets (sextets bytes) = bytes := by
  induction bytes using sextets.induct with
  | case1 a b c rest ih =>
      have ha := a.toNat_lt
      have hb := b.toNat_lt
      have hc := c.toNat_lt
      have ha' : a.toNat / 4 * 4 + (a.toNat % 4 * 16 + b.toNat / 16) / 16 = a.toNat := by omega
      have hb' : (a.toNat % 4 * 16 + b.toNat / 16) % 16 * 16 + (b.toNat % 16 * 4 + c.toNat / 64) / 4 = b.toNat := by
        omega
      have hc' : (b.toNat % 16 * 4 + c.toNat / 64) % 4 * 64 + c.toNat % 64 = c.toNat := by omega
      rw [sextets, octets, ih, ha', hb', hc']
      simp only [UInt8.ofNat_toNat]
  | case2 a b =>
      have ha := a.toNat_lt
      have hb := b.toNat_lt
      have ha' : a.toNat / 4 * 4 + (a.toNat % 4 * 16 + b.toNat / 16) / 16 = a.toNat := by omega
      have hb' : (a.toNat % 4 * 16 + b.toNat / 16) % 16 * 16 + b.toNat % 16 * 4 / 4 = b.toNat := by omega
      rw [sextets, octets, ha', hb']
      simp only [UInt8.ofNat_toNat]
  | case3 a =>
      have ha := a.toNat_lt
      have ha' : a.toNat / 4 * 4 + a.toNat % 4 * 16 / 16 = a.toNat := by omega
      rw [sextets, octets, ha', UInt8.ofNat_toNat]
  | case4 => rfl

theorem sextets_length (bytes : Bytes) : (sextets bytes).length = (4 * bytes.length + 2) / 3 := by
  induction bytes using sextets.induct with
  | case1 a b c rest ih =>
      simp only [sextets, List.length_cons, ih]
      omega
  | case2 | case3 | case4 => simp [sextets]

theorem encode_length (bytes : Bytes) : (encode bytes).length = (4 * bytes.length + 2) / 3 := by
  rw [encode, List.length_map, sextets_length]

theorem mapM_digitValue?_map_digit (numbers : List Nat) (h : ∀ n ∈ numbers, n < 64) :
    (numbers.map digit).mapM digitValue? = some numbers := by
  induction numbers with
  | nil => rfl
  | cons n numbers ih =>
      rw [List.forall_mem_cons] at h
      rw [List.map_cons, List.mapM_cons, digitValue?_digit n h.1, ih h.2]
      rfl

theorem decode_encode (bytes : Bytes) : decode (encode bytes) = .ok bytes := by
  have hlength : (encode bytes).length % 4 ≠ 1 := by
    rw [encode_length]
    omega
  rw [decode, encode, mapM_digitValue?_map_digit _ (sextets_lt bytes)]
  change (if (encode bytes).length % 4 = 1 then _ else _) = _
  rw [if_neg hlength, octets_sextets]

theorem not_isSurrogate_encode (bytes : Bytes) : ∀ c ∈ encode bytes, ¬c.IsSurrogate := by
  intro c hc
  obtain ⟨n, hn, rfl⟩ := List.mem_map.mp hc
  exact not_isSurrogate_digit n (sextets_lt bytes n hn)

end PakeRegistration.Base64Url
