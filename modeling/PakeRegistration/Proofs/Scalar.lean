import Mathlib.FieldTheory.Finite.Basic
import PakeRegistration.Proofs.Modular
import PakeRegistration.Scalar

namespace PakeRegistration.Scalar

open PakeRegistration.Modular

def certificates : List Certificate :=
  [
    ⟨2, 1, []⟩, ⟨3, 2, [2]⟩, ⟨5, 2, [2, 2]⟩, ⟨7, 3, [2, 3]⟩, ⟨11, 2, [2, 5]⟩, ⟨13, 2, [2, 2, 3]⟩,
    ⟨17, 3, [2, 2, 2, 2]⟩, ⟨19, 2, [2, 3, 3]⟩, ⟨23, 5, [2, 11]⟩, ⟨41, 6, [2, 2, 2, 5]⟩, ⟨43, 3, [2, 3, 7]⟩,
    ⟨47, 5, [2, 23]⟩, ⟨67, 2, [2, 3, 11]⟩, ⟨73, 5, [2, 2, 2, 3, 3]⟩, ⟨79, 3, [2, 3, 13]⟩,
    ⟨113, 3, [2, 2, 2, 2, 7]⟩, ⟨269, 2, [2, 2, 67]⟩, ⟨307, 5, [2, 3, 3, 17]⟩, ⟨1361, 3, [2, 2, 2, 2, 5, 17]⟩,
    ⟨1723, 3, [2, 3, 7, 41]⟩, ⟨2551, 6, [2, 3, 5, 5, 17]⟩, ⟨2851, 2, [2, 3, 5, 5, 19]⟩, ⟨2939, 2, [2, 13, 113]⟩,
    ⟨3797, 2, [2, 2, 13, 73]⟩, ⟨5879, 11, [2, 2939]⟩, ⟨17231, 13, [2, 5, 1723]⟩, ⟨22111, 6, [2, 3, 5, 11, 67]⟩,
    ⟨30703, 3, [2, 3, 7, 17, 43]⟩, ⟨34123, 2, [2, 3, 11, 11, 47]⟩, ⟨41081, 3, [2, 2, 2, 5, 13, 79]⟩,
    ⟨82163, 2, [2, 41081]⟩, ⟨132667, 5, [2, 3, 22111]⟩, ⟨137849, 3, [2, 2, 2, 17231]⟩,
    ⟨409477, 2, [2, 2, 3, 34123]⟩, ⟨531581, 2, [2, 2, 5, 7, 3797]⟩, ⟨1224481, 13, [2, 2, 2, 2, 2, 3, 5, 2551]⟩,
    ⟨14741173, 2, [2, 2, 3, 3, 409477]⟩, ⟨58964693, 2, [2, 2, 14741173]⟩,
    ⟨292386187, 2, [2, 3, 3, 3, 3, 307, 5879]⟩, ⟨213441916511, 13, [2, 5, 73, 292386187]⟩,
    ⟨1257559732178653, 2, [2, 2, 3, 7, 23, 531581, 1224481]⟩,
    ⟨4434155615661930479, 17, [2, 41, 43, 1257559732178653]⟩,
    ⟨3044861653679985063343, 5, [2, 3, 11, 30703, 82163, 132667, 137849]⟩,
    ⟨172054593956031949258510691, 2, [2, 5, 1361, 2851, 4434155615661930479]⟩,
    ⟨198211423230930754013084525763697, 5, [2, 2, 2, 2, 3, 23, 58964693, 3044861653679985063343]⟩,
    ⟨19757330305831588566944191468367130476339, 2, [2, 269, 213441916511, 172054593956031949258510691]⟩,
    ⟨276602624281642239937218680557139826668747, 2, [2, 7, 19757330305831588566944191468367130476339]⟩,
    ⟨7237005577332262213973186563042994240857116359379907606001950938285454250989, 2,
      [2, 2, 3, 11, 198211423230930754013084525763697, 276602624281642239937218680557139826668747]⟩]

theorem certificates_chain : Certificate.Chain [] certificates := by decide +kernel

theorem order_prime : order.Prime := by
  have h : (certificates.getLast (by decide)).number.Prime :=
    certificates_chain.prime (by simp) _ (List.getLast_mem _)
  exact h

theorem order_pos : 0 < order := order_prime.pos

theorem ofNat_mod (n : Nat) : ofNat (n % order) = ofNat n := by
  rw [ofNat, ofNat, Nat.mod_mod]

theorem ofNat_eq_ofNat_iff (m n : Nat) : ofNat m = ofNat n ↔ m % order = n % order := by
  constructor
  · intro h
    rw [← toNatLE_ofNat, ← toNatLE_ofNat, h]
  · intro h
    rw [← ofNat_mod m, h, ofNat_mod]

theorem ofNat_eq_zero_iff (n : Nat) : ofNat n = zero ↔ order ∣ n := by
  have h : ofNat 0 = zero := by decide
  rw [← h, ofNat_eq_ofNat_iff, Nat.zero_mod, Nat.dvd_iff_mod_eq_zero]

theorem ofNat_toNatLE_ofNat (n : Nat) : ofNat (Bytes.toNatLE (ofNat n)) = ofNat n := by
  rw [toNatLE_ofNat, ofNat_mod]

theorem exists_ofNat_of_validate {scalar result : Bytes} {field : Text} (h : validate scalar field = .ok result) :
    result = scalar ∧ ∃ n, ¬order ∣ n ∧ scalar = ofNat n := by
  unfold validate at h
  split at h
  · cases h
  · split at h
    · cases h
    next hz =>
      split at h
      · cases h
      next hr =>
        have hr : ofNat (Bytes.toNatLE scalar) = scalar := by simpa using hr
        refine ⟨by cases h; rfl, Bytes.toNatLE scalar, ?_, hr.symm⟩
        intro hd
        exact hz (hr.symm.trans ((ofNat_eq_zero_iff _).mpr hd))

/-- Inversion is a power whatever the octets stand for, so it is an inversion only off the multiples of the
order. -/
theorem invert_eq (scalar : Bytes) (hz : scalar ≠ zero) (hl : scalar.length = size) :
    invert scalar = .ok (ofNat (Bytes.toNatLE scalar ^ (order - 2))) := by
  have he : order - 2 < 2 ^ 253 := by decide +kernel
  rw [invert, if_neg (by simp [hz, hl]), pow_eq order _ 253 _ he, ofNat_mod, ← ofNat_mod, ← Nat.pow_mod, ofNat_mod]

theorem mul_pow_mod (n : Nat) (h : ¬order ∣ n) : n * n ^ (order - 2) % order = 1 := by
  have hc : n.Coprime order := ((Nat.Prime.coprime_iff_not_dvd order_prime).mpr h).symm
  have hp : n ^ order.totient ≡ 1 [MOD order] := Nat.ModEq.pow_totient hc
  have he : order - 1 = order - 2 + 1 := by have := order_prime.two_le; omega
  rw [Nat.totient_prime order_prime, he, Nat.pow_succ'] at hp
  rw [hp, Nat.mod_eq_of_lt order_prime.one_lt]

theorem not_dvd_of_mul_mod {m n : Nat} (h : n * m % order = 1) : ¬order ∣ m := by
  intro hd
  rw [Nat.mod_eq_zero_of_dvd (Dvd.dvd.mul_left hd n)] at h
  cases h

theorem invert_ofNat (n : Nat) (h : ¬order ∣ n) : ∃ m, invert (ofNat n) = .ok (ofNat m) ∧ n * m % order = 1 := by
  have hz : ofNat n ≠ zero := fun he => h ((ofNat_eq_zero_iff n).mp he)
  have hmod : (n % order) ^ (order - 2) % order = n ^ (order - 2) % order := (Nat.pow_mod n _ order).symm
  refine ⟨n ^ (order - 2), ?_, mul_pow_mod n h⟩
  rw [invert_eq _ hz (ofNat_length n), toNatLE_ofNat, (ofNat_eq_ofNat_iff _ _).mpr hmod]

end PakeRegistration.Scalar
