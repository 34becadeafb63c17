import Mathlib.NumberTheory.LucasPrimality
import Mathlib.Data.List.Prime
import PakeRegistration.Modular

namespace PakeRegistration.Modular

theorem pow_eq (modulus base digits exponent : Nat) (h : exponent < 2 ^ digits) :
    pow modulus base digits exponent = base ^ exponent % modulus := by
  induction digits generalizing base exponent with
  | zero =>
      have h0 : exponent = 0 := by simpa using h
      simp [pow, h0]
  | succ digits ih =>
      have hhalf : exponent / 2 < 2 ^ digits := by
        rw [Nat.pow_succ] at h
        omega
      have hsquare : (base * base % modulus) ^ (exponent / 2) % modulus = base ^ (2 * (exponent / 2)) % modulus := by
        rw [← Nat.pow_mod, Nat.pow_mul, Nat.pow_two]
      simp only [pow, ih _ _ hhalf, hsquare]
      split
      next hodd =>
        rw [Nat.mul_mod, Nat.mod_mod, ← Nat.mul_mod, ← Nat.pow_succ']
        congr 2
        omega
      next heven =>
        congr 2
        omega

theorem natCast_pow_eq_one_iff (modulus base exponent : Nat) (hm : 2 ≤ modulus) (he : exponent < 2 ^ 256) :
    ((base : ZMod modulus) ^ exponent = 1) ↔ pow modulus base 256 exponent = 1 := by
  have hone : 1 % modulus = 1 := Nat.mod_eq_of_lt hm
  rw [pow_eq modulus base 256 exponent he, ← Nat.cast_pow, ← Nat.cast_one, ZMod.natCast_eq_natCast_iff', hone]

/-- A number, a base, and the prime factors of the number less one, each as often as it divides. -/
structure Certificate where
  number : Nat
  base : Nat
  factors : List Nat

namespace Certificate

/-- Lucas's test, with factors that are known to be prime. -/
def Holds (known : List Nat) (c : Certificate) : Prop :=
  2 ≤ c.number ∧ c.number ≤ 2 ^ 256 ∧ c.factors.prod = c.number - 1 ∧ (∀ q ∈ c.factors, q ∈ known) ∧
    pow c.number c.base 256 (c.number - 1) = 1 ∧
      ∀ q ∈ c.factors, pow c.number c.base 256 ((c.number - 1) / q) ≠ 1

instance (known : List Nat) (c : Certificate) : Decidable (c.Holds known) :=
  inferInstanceAs (Decidable (_ ∧ _))

theorem Holds.prime {known : List Nat} {c : Certificate} (h : c.Holds known) (hk : ∀ q ∈ known, q.Prime) :
    c.number.Prime := by
  obtain ⟨hm, hmax, hprod, hknown, hone, hne⟩ := h
  refine lucas_primality c.number (c.base : ZMod c.number) ?_ ?_
  · rwa [natCast_pow_eq_one_iff _ _ _ hm (by omega)]
  · intro q hq hdvd
    rw [← hprod] at hdvd
    have hmem : q ∈ c.factors :=
      mem_list_primes_of_dvd_prod hq.prime (fun r hr => (hk r (hknown r hr)).prime) hdvd
    have hlt : (c.number - 1) / q < 2 ^ 256 := Nat.lt_of_le_of_lt (Nat.div_le_self _ _) (by omega)
    rw [ne_eq, natCast_pow_eq_one_iff _ _ _ hm hlt]
    exact hne q hmem

def Chain (known : List Nat) : List Certificate → Prop
  | [] => True
  | c :: rest => c.Holds known ∧ Chain (c.number :: known) rest

instance decidableChain : (known : List Nat) → (chain : List Certificate) → Decidable (Chain known chain)
  | _, [] => inferInstanceAs (Decidable True)
  | known, c :: rest =>
      have := decidableChain (c.number :: known) rest
      inferInstanceAs (Decidable (_ ∧ _))

theorem Chain.prime {known : List Nat} {chain : List Certificate} (h : Chain known chain)
    (hk : ∀ q ∈ known, q.Prime) : ∀ c ∈ chain, c.number.Prime := by
  induction chain generalizing known with
  | nil => simp
  | cons c rest ih =>
      have hc : c.number.Prime := h.1.prime hk
      have hrest := ih h.2 (by simpa [hc] using hk)
      simpa [hc] using hrest

end Certificate

end PakeRegistration.Modular
