import PakeRegistration.Proofs.Reduction
import PakeRegistration.Proofs.Residues

namespace PakeRegistration

open Outcome

namespace Scalar

/-- Octets of a number off the multiples of the order, in lowest terms or not. -/
def Invertible (scalar : Bytes) : Prop :=
  scalar.length = 32 ∧ ¬order ∣ Bytes.toNatLE scalar

instance : DecidablePred Invertible :=
  fun _ => inferInstanceAs (Decidable (_ ∧ _))

theorem Invertible.ne_zero {scalar : Bytes} (h : Invertible scalar) : scalar ≠ zero := by
  intro hz
  exact h.2 ((eq_zero_iff scalar h.1).mp hz ▸ dvd_zero order)

theorem mod_eq_of_mul_mod {k m n : Nat} (h : n * m % order = 1) (h' : m * k % order = 1) : k % order = n % order := by
  have hone : 1 % order = 1 := Nat.mod_eq_of_lt order_prime.one_lt
  have hk : n * m * k ≡ 1 * k [MOD order] := Nat.ModEq.mul_right k (h.trans hone.symm)
  have hn : n * (m * k) ≡ n * 1 [MOD order] := Nat.ModEq.mul_left n (h'.trans hone.symm)
  rw [Nat.one_mul] at hk
  rw [← Nat.mul_assoc, Nat.mul_one] at hn
  exact hk.symm.trans hn

theorem invert_congr {scalar scalar' : Bytes} (h : Invertible scalar) (h' : Invertible scalar')
    (hmod : Bytes.toNatLE scalar % order = Bytes.toNatLE scalar' % order) : invert scalar = invert scalar' := by
  have hpow : Bytes.toNatLE scalar ^ (order - 2) % order = Bytes.toNatLE scalar' ^ (order - 2) % order := by
    rw [Nat.pow_mod, hmod, ← Nat.pow_mod]
  rw [invert_eq scalar h.ne_zero h.1, invert_eq scalar' h'.ne_zero h'.1, (ofNat_eq_ofNat_iff _ _).mpr hpow]

theorem Invertible.exists_invert {scalar : Bytes} (h : Invertible scalar) :
    ∃ m, invert scalar = .ok (ofNat m) ∧ ¬order ∣ m ∧ Bytes.toNatLE scalar * m % order = 1 := by
  have hone := mul_pow_mod _ h.2
  exact ⟨_, invert_eq scalar h.ne_zero h.1, not_dvd_of_mul_mod hone, hone⟩

/-- Octets of a multiple of the order get past the check for zero, and the power that is computed for them is zero. -/
theorem invert_of_dvd {scalar : Bytes} (hl : scalar.length = 32) (hz : scalar ≠ zero)
    (hd : order ∣ Bytes.toNatLE scalar) : invert scalar = .ok zero := by
  have hpow : order ∣ Bytes.toNatLE scalar ^ (order - 2) := dvd_pow hd (by decide +kernel)
  rw [invert_eq scalar hz hl, (ofNat_eq_zero_iff _).mpr hpow]

theorem invert_of_not_invertible {scalar : Bytes} (h : ¬Invertible scalar) :
    invert scalar = .error .zeroInversion ∨
      (scalar.length = size ∧ scalar ≠ zero ∧ order ∣ Bytes.toNatLE scalar) := by
  by_cases hz : scalar = zero ∨ scalar.length ≠ size
  · exact Or.inl (if_pos hz)
  · rw [not_or, not_not] at hz
    exact Or.inr ⟨hz.2, hz.1, by_contra fun hd => h ⟨hz.2, hd⟩⟩

theorem exists_invert_ofNat {n : Nat} (hn : ¬order ∣ n) :
    ∃ m, ¬order ∣ m ∧ n * m % order = 1 ∧ invert (ofNat n) = .ok (ofNat m) ∧ invert (ofNat m) = .ok (ofNat n) := by
  obtain ⟨m, hm, hnm⟩ := invert_ofNat n hn
  have hmd := not_dvd_of_mul_mod hnm
  obtain ⟨k, hk, hmk⟩ := invert_ofNat m hmd
  rw [(ofNat_eq_ofNat_iff k n).mpr (mod_eq_of_mul_mod hnm hmk)] at hk
  exact ⟨m, hmd, hnm, hm, hk⟩

end Scalar

namespace PrimeGroup

variable {G : PrimeGroup} {E : Type} [AddCommGroup E] (I : G.Interpretation E)

namespace Interpretation

include I

theorem multiply_encode_of_eq_zero {scalar : Bytes} {P : E} (h : multiplier scalar • P = 0) :
    G.multiply scalar (I.encode P) = .error .product := by
  rw [multiply, I.multiple_encode _ (multiplier_lt scalar), h, I.encode_zero]
  simp only [if_true, ite_self]

theorem multiply_of_not_accepts {element : Bytes} (h : ¬G.Accepts element) (scalar : Bytes) :
    G.multiply scalar element = .error .product := by
  by_cases hP : ∃ P, I.encode P = element
  · obtain ⟨P, rfl⟩ := hP
    have hzero : P = 0 := by
      by_contra hne
      exact h (I.accepts_encode P hne)
    exact I.multiply_encode_of_eq_zero (by rw [hzero, nsmul_zero])
  · rw [multiply, I.multiple_none _ _ (not_exists.mp hP), ite_self]

theorem multiply_zero (element : Bytes) : G.multiply Scalar.zero element = .error .product := by
  by_cases h : G.Accepts element
  · obtain ⟨P, _, rfl⟩ := I.exists_encode_of_accepts h
    have hzero : multiplier Scalar.zero = 0 := by decide
    exact I.multiply_encode_of_eq_zero (by rw [hzero, zero_nsmul])
  · exact I.multiply_of_not_accepts h Scalar.zero

end Interpretation

/-- A multiple by an accepted scalar is accepted, and so is a multiple by the scalar's inverse; the one takes the other
back, whichever comes first. -/
theorem unblinding_cancels (G : PrimeGroup) (hG : G.Lawful) (scalar element : Bytes) (field field' : Text)
    (hs : Scalar.validate scalar field = .ok scalar) (he : G.validate element field' = .ok element) :
    ∃ inverse product quotient,
      (G.multiply scalar element = .ok product ∧ ∀ field, G.validate product field = .ok product) ∧
      (Scalar.invert scalar = .ok inverse ∧ (∀ field, Scalar.validate inverse field = .ok inverse) ∧
        Bytes.toNatLE scalar * Bytes.toNatLE inverse % Scalar.order = 1 ∧ Scalar.invert inverse = .ok scalar) ∧
      G.multiply inverse product = .ok element ∧
      G.multiply inverse element = .ok quotient ∧ G.multiply scalar quotient = .ok element := by
  obtain ⟨E, _, ⟨I⟩⟩ := hG
  obtain ⟨_, n, hn, rfl⟩ := Scalar.exists_ofNat_of_validate hs
  obtain ⟨_, P, hP, rfl⟩ := I.exists_encode_of_validate he
  obtain ⟨m, hm, hnm, hinverse, hback⟩ := Scalar.exists_invert_ofNat hn
  have hnP := I.nsmul_ne_zero hn hP
  have hmP := I.nsmul_ne_zero hm hP
  refine ⟨_, _, _, ⟨I.multiply_encode n P hn hP, (I.accepts_encode _ hnP).validate⟩, ⟨hinverse, ?_, ?_, hback⟩, ?_,
    I.multiply_encode m P hm hP, ?_⟩
  · exact fun _ => Scalar.validate_eq_ok_iff.mpr ⟨rfl, Scalar.canonical_ofNat m hm⟩
  · rw [Scalar.toNatLE_ofNat, Scalar.toNatLE_ofNat, ← Nat.mul_mod, hnm]
  · rw [I.multiply_encode m _ hm hnP, I.nsmul_inverse_cancel m n P hnm]
  · rw [I.multiply_encode n _ hn hmP, I.nsmul_inverse_cancel n m P (by rw [Nat.mul_comm, hnm])]

theorem unblinding_cancels_twice :
    Scalar.validate (Scalar.ofNat 2) "scalar" = .ok (Scalar.ofNat 2) ∧
      Residues.doublings.validate Residues.twiceGenerator "group element" = .ok Residues.twiceGenerator ∧
      Residues.doublings.multiply (Scalar.ofNat 2) Residues.twiceGenerator = .ok Residues.fourTimesGenerator ∧
      Scalar.invert (Scalar.ofNat 2) = .ok (Scalar.ofNat Residues.half) ∧
      Residues.doublings.multiply (Scalar.ofNat Residues.half) Residues.fourTimesGenerator =
        .ok Residues.twiceGenerator ∧
      Residues.doublings.multiply (Scalar.ofNat Residues.half) Residues.twiceGenerator =
        .ok Ristretto255.generatorOctets ∧
      Residues.doublings.multiply (Scalar.ofNat 2) Ristretto255.generatorOctets = .ok Residues.twiceGenerator := by
  have hs : Scalar.validate (Scalar.ofNat 2) "scalar" = .ok (Scalar.ofNat 2) := by decide +kernel
  have he : Residues.doublings.validate Residues.twiceGenerator "group element" = .ok Residues.twiceGenerator := by
    decide +kernel
  have hproduct : Residues.doublings.multiply (Scalar.ofNat 2) Residues.twiceGenerator =
      .ok Residues.fourTimesGenerator := by
    decide +kernel
  have hinverse : Scalar.invert (Scalar.ofNat 2) = .ok (Scalar.ofNat Residues.half) := by decide +kernel
  have hquotient : Residues.doublings.multiply (Scalar.ofNat Residues.half) Residues.twiceGenerator =
      .ok Ristretto255.generatorOctets := by
    decide +kernel
  obtain ⟨inverse, product, quotient, ⟨hp, _⟩, ⟨hi, _⟩, hback, hq, hforth⟩ :=
    unblinding_cancels Residues.doublings Residues.doublings_lawful _ _ _ _ hs he
  obtain rfl := Except.ok.inj (hp.symm.trans hproduct)
  obtain rfl := Except.ok.inj (hi.symm.trans hinverse)
  obtain rfl := Except.ok.inj (hq.symm.trans hquotient)
  exact ⟨hs, he, hp, hi, hback, hq, hforth⟩

end PrimeGroup

namespace Oprf

theorem transcript_of_long {password : Bytes} (h : 65535 < password.length) (element : Bytes) :
    transcript password element = .error (.integer password.length 2) := by
  have hlength : FixedWidth.encode password.length 2 = .error (.integer password.length 2) :=
    FixedWidth.encode_of_le password.length 2 (by decide) h
  rw [transcript, hlength, error_bind]

section

variable {G : PrimeGroup} {blind evaluated : Bytes}

theorem finalize_of_invert {inverse : Bytes} (h : Scalar.invert blind = .ok inverse) (password : Bytes) :
    finalize G password blind evaluated =
      (G.multiply inverse evaluated).mapError .protocol >>= fun element =>
        (transcript password element).mapError .range >>= fun octets => .ok (Sha512.hash octets) := by
  rw [finalize, h]
  rfl

variable {E : Type} [AddCommGroup E] (I : G.Interpretation E)

include I

theorem finalize_of_not_invertible (h : ¬Scalar.Invertible blind) (password : Bytes) :
    ∃ e, finalize G password blind evaluated = .error (.protocol e) ∧ (Error.protocol e).category = .protocol := by
  rcases Scalar.invert_of_not_invertible h with hrefused | ⟨hl, hz, hd⟩
  · refine ⟨.zeroInversion, ?_, rfl⟩
    rw [finalize, hrefused]
    rfl
  · refine ⟨.product, ?_, rfl⟩
    rw [finalize_of_invert (Scalar.invert_of_dvd hl hz hd), I.multiply_zero]
    rfl

theorem finalize_of_not_accepts (hb : Scalar.Invertible blind) (he : ¬G.Accepts evaluated) (password : Bytes) :
    finalize G password blind evaluated = .error (.protocol .product) := by
  obtain ⟨m, hm, _⟩ := hb.exists_invert
  rw [finalize_of_invert hm, I.multiply_of_not_accepts he]
  rfl

theorem finalize_of_accepts (hb : Scalar.Invertible blind) (he : G.Accepts evaluated) (password : Bytes) :
    ∃ element, element.length = 32 ∧ finalize G password blind evaluated =
      (transcript password element).mapError .range >>= fun octets => .ok (Sha512.hash octets) := by
  obtain ⟨m, hm, hmd, _⟩ := hb.exists_invert
  obtain ⟨P, hP, rfl⟩ := I.exists_encode_of_accepts he
  refine ⟨I.encode (m • P), I.encode_length _, ?_⟩
  rw [finalize_of_invert hm, I.multiply_encode m P hmd hP]
  rfl

end

/-- Whatever octets stand for blind and element: where the blind has no inverse or the element is none, they are
refused by the protocol, also where the blind is a multiple of the order that is not written as zero; where they can be
used, a long password is refused; and blinds that are congruent are the same blind. -/
theorem finalize_domain (G : PrimeGroup) (hG : G.Lawful) (password evaluated : Bytes) :
    (∀ blind, ((finalize G password blind evaluated).map List.length).mapError Error.category =
        if ¬(Scalar.Invertible blind ∧ G.Accepts evaluated) then .error .protocol
        else if 65535 < password.length then .error .value
        else .ok 64) ∧
      ∀ blind blind', Scalar.Invertible blind → Scalar.Invertible blind' →
        Bytes.toNatLE blind % Scalar.order = Bytes.toNatLE blind' % Scalar.order →
        finalize G password blind evaluated = finalize G password blind' evaluated := by
  obtain ⟨E, _, ⟨I⟩⟩ := hG
  refine ⟨fun blind => ?_, fun blind blind' hb hb' hmod => ?_⟩
  · split
    next h =>
      by_cases hb : Scalar.Invertible blind
      · have he : ¬G.Accepts evaluated := fun he => h ⟨hb, he⟩
        rw [finalize_of_not_accepts I hb he]
        rfl
      · obtain ⟨e, he, hcategory⟩ : ∃ e, finalize G password blind evaluated = .error (.protocol e) ∧ _ :=
          finalize_of_not_invertible I hb password
        rw [he]
        exact congrArg Except.error hcategory
    next h =>
      obtain ⟨hb, he⟩ := not_not.mp h
      obtain ⟨element, hl, hf⟩ := finalize_of_accepts I hb he password
      split
      next hp =>
        rw [hf, transcript_of_long hp]
        rfl
      next hp =>
        rw [hf, transcript_eq password element (Nat.not_lt.mp hp) (by omega)]
        exact congrArg Except.ok (Sha512.hash_length _)
  · rw [finalize, finalize, Scalar.invert_congr hb hb' hmod]

theorem finalize_domain_sample :
    ((finalize Residues.sample (Bytes.ascii "pw") (Scalar.ofNat 2) Residues.sampleEvaluated).map
        List.length).mapError Error.category = .ok 64 ∧
      finalize Residues.sample (Bytes.ascii "pw") (Scalar.ofNat 2) Residues.sampleEvaluated =
        finalize Residues.sample (Bytes.ascii "pw") (Bytes.ofNatLE 32 (Scalar.order + 2)) Residues.sampleEvaluated ∧
      ((finalize Residues.sample (Bytes.ascii "pw") (Bytes.ofNatLE 32 Scalar.order) Residues.sampleEvaluated).map
        List.length).mapError Error.category = .error .protocol ∧
      ((finalize Residues.sample (Bytes.ascii "pw") (Scalar.ofNat 2) []).map
        List.length).mapError Error.category = .error .protocol ∧
      ((finalize Residues.sample (Bytes.zeros 65536) (Scalar.ofNat 2) Residues.sampleEvaluated).map
        List.length).mapError Error.category = .error .value := by
  have hblind : Scalar.Invertible (Scalar.ofNat 2) := by decide +kernel
  have hunreduced : Scalar.Invertible (Bytes.ofNatLE 32 (Scalar.order + 2)) := by decide +kernel
  have horder : ¬Scalar.Invertible (Bytes.ofNatLE 32 Scalar.order) := by decide +kernel
  have helement : Residues.sample.Accepts Residues.sampleEvaluated := by decide +kernel
  have hempty : ¬Residues.sample.Accepts [] := by decide +kernel
  have hlong : 65535 < (Bytes.zeros 65536).length := by
    rw [Bytes.zeros, List.length_replicate]
    decide
  obtain ⟨htable, hcongr⟩ :=
    finalize_domain Residues.sample Residues.sample_lawful (Bytes.ascii "pw") Residues.sampleEvaluated
  obtain ⟨htable', _⟩ := finalize_domain Residues.sample Residues.sample_lawful (Bytes.ascii "pw") []
  obtain ⟨htable'', _⟩ :=
    finalize_domain Residues.sample Residues.sample_lawful (Bytes.zeros 65536) Residues.sampleEvaluated
  refine ⟨?_, hcongr _ _ hblind hunreduced (by decide +kernel), ?_, ?_, ?_⟩
  · rw [htable, if_neg (not_not.mpr ⟨hblind, helement⟩), if_neg (by decide)]
  · rw [htable, if_pos fun h => horder h.1]
  · rw [htable', if_pos fun h => hempty h.2]
  · rw [htable'', if_neg (not_not.mpr ⟨hblind, helement⟩), if_pos hlong]

end Oprf

end PakeRegistration
