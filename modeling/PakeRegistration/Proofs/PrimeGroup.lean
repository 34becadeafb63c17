import Mathlib.Algebra.Group.Nat.Even
import Mathlib.GroupTheory.OrderOfElement
import PakeRegistration.PrimeGroup
import PakeRegistration.Proofs.Scalar

/-!
What the operations on encodings have to do with a group: an interpretation names the group whose elements the
encodings stand for. Under one, multiplication by canonical scalars is an action that is undone by the inverse.
-/

namespace PakeRegistration.PrimeGroup

/-- A group of the scalars' order behind the encodings. Every element has one encoding, the identity's is zeros, and
the operations are those of the group as far as multiplication reads its scalar. -/
structure Interpretation (G : PrimeGroup) (E : Type) [AddCommGroup E] where
  encode : E → Bytes
  generator : E
  card : Nat.card E = Scalar.order
  encode_injective : Function.Injective encode
  encode_length (P : E) : (encode P).length = elementSize
  encode_zero : encode 0 = identity
  isElement_iff (octets : Bytes) : G.isElement octets = true ↔ ∃ P, encode P = octets
  generator_ne_zero : generator ≠ 0
  ofUniform_eq (octets : Bytes) (h : octets.length = Scalar.uniformSize) : ∃ P, G.ofUniform octets = encode P
  multiple_encode (n : Nat) (h : n < Nat.pow 2 255) (P : E) : G.multiple? n (encode P) = some (encode (n • P))
  multiple_none (n : Nat) (octets : Bytes) (h : ∀ P, encode P ≠ octets) : G.multiple? n octets = none
  baseMultiple_eq (n : Nat) (h : n < Nat.pow 2 255) : G.baseMultiple n = encode (n • generator)

/-- The operations are those of some group of the scalars' order. -/
def Lawful (G : PrimeGroup) : Prop :=
  ∃ (E : Type) (_ : AddCommGroup E), Nonempty (G.Interpretation E)

variable {G : PrimeGroup} {E : Type} [AddCommGroup E] (I : G.Interpretation E)

theorem multiplier_lt (scalar : Bytes) : multiplier scalar < Nat.pow 2 255 :=
  Nat.mod_lt _ (by decide)

/-- Canonical octets leave the highest bit clear, so multiplication reads the whole number. -/
theorem multiplier_ofNat (n : Nat) : multiplier (Scalar.ofNat n) = n % Scalar.order := by
  have h : n % Scalar.order < Nat.pow 2 255 :=
    Nat.lt_trans (Nat.mod_lt n Scalar.order_pos) (by decide)
  rw [multiplier, Scalar.toNatLE_ofNat, Nat.mod_eq_of_lt h]

namespace Interpretation

include I

theorem order_nsmul (P : E) : Scalar.order • P = 0 := by
  rw [← I.card]
  exact card_nsmul_eq_zero'

theorem mod_nsmul (n : Nat) (P : E) : (n % Scalar.order) • P = n • P := by
  have h : (Scalar.order * (n / Scalar.order)) • P = 0 := by
    rw [mul_comm, mul_nsmul', I.order_nsmul, nsmul_zero]
  calc (n % Scalar.order) • P = (n % Scalar.order) • P + (Scalar.order * (n / Scalar.order)) • P := by
        rw [h, add_zero]
    _ = n • P := by rw [← add_nsmul, Nat.mod_add_div]

theorem nsmul_eq_zero_iff (n : Nat) (P : E) (hP : P ≠ 0) : n • P = 0 ↔ Scalar.order ∣ n := by
  have hdvd : addOrderOf P ∣ Scalar.order := addOrderOf_dvd_of_nsmul_eq_zero (I.order_nsmul P)
  have horder : addOrderOf P = Scalar.order := by
    rcases (Nat.dvd_prime Scalar.order_prime).mp hdvd with h | h
    · exact absurd (AddMonoid.addOrderOf_eq_one_iff.mp h) hP
    · exact h
  rw [← addOrderOf_dvd_iff_nsmul_eq_zero, horder]

theorem nsmul_ne_zero {n : Nat} {P : E} (hn : ¬Scalar.order ∣ n) (hP : P ≠ 0) : n • P ≠ 0 :=
  fun h => hn ((I.nsmul_eq_zero_iff n P hP).mp h)

theorem encode_eq_identity_iff (P : E) : I.encode P = identity ↔ P = 0 := by
  rw [← I.encode_zero]
  exact I.encode_injective.eq_iff

theorem multiply_encode (n : Nat) (P : E) (hn : ¬Scalar.order ∣ n) (hP : P ≠ 0) :
    G.multiply (Scalar.ofNat n) (I.encode P) = .ok (I.encode (n • P)) := by
  have hne : I.encode (n • P) ≠ identity := fun h => I.nsmul_ne_zero hn hP ((I.encode_eq_identity_iff _).mp h)
  have hlt := multiplier_lt (Scalar.ofNat n)
  rw [multiply, if_neg (by simp [I.encode_length]), I.multiple_encode _ hlt, multiplier_ofNat, I.mod_nsmul]
  simp only [hne, if_false]

theorem multiplyBase_ofNat (n : Nat) (hn : ¬Scalar.order ∣ n) :
    G.multiplyBase (Scalar.ofNat n) = .ok (I.encode (n • I.generator)) := by
  have hne : I.encode (n • I.generator) ≠ identity :=
    fun h => I.nsmul_ne_zero hn I.generator_ne_zero ((I.encode_eq_identity_iff _).mp h)
  have hlt := multiplier_lt (Scalar.ofNat n)
  rw [multiplyBase, if_neg (by simp), I.baseMultiple_eq _ hlt, multiplier_ofNat, I.mod_nsmul]
  simp only [hne, if_false]

theorem ne_zero_of_multiply {scalar product : Bytes} {P : E} (h : G.multiply scalar (I.encode P) = .ok product) :
    P ≠ 0 := by
  rintro rfl
  have hlt := multiplier_lt scalar
  rw [multiply, I.multiple_encode _ hlt, nsmul_zero, I.encode_zero] at h
  split at h <;> simp at h

theorem exists_encode_of_validate {element result : Bytes} {field : Text}
    (h : G.validate element field = .ok result) : result = element ∧ ∃ P, P ≠ 0 ∧ element = I.encode P := by
  unfold validate at h
  split at h
  · cases h
  · split at h
    · cases h
    next hne =>
      split at h
      next helement =>
        obtain ⟨P, rfl⟩ := (I.isElement_iff element).mp helement
        refine ⟨by cases h; rfl, P, ?_, rfl⟩
        intro hP
        exact hne ((I.encode_eq_identity_iff P).mpr hP)
      · cases h

theorem nsmul_inverse_cancel (m n : Nat) (P : E) (h : n * m % Scalar.order = 1) : m • n • P = P := by
  rw [← mul_nsmul, ← I.mod_nsmul, h, one_nsmul]

end Interpretation

end PakeRegistration.PrimeGroup
