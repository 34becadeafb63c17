import PakeRegistration.KeyPair
import PakeRegistration.Proofs.Oprf

namespace PakeRegistration.KeyPair

def seedInput (seed info : Bytes) : Bytes :=
  seed ++ Bytes.ofNatBE 2 info.length ++ info

def scalarAt (input : Bytes) (counter : Nat) : Except RangeError Bytes :=
  Scalar.hash (input ++ Bytes.ofNatBE 1 counter) Oprf.deriveKeyPairTag

/-- Some counter gives a scalar that is not zero. -/
def Derivable (seed info : Bytes) : Prop :=
  ∃ counter, counter < counters ∧ scalarAt (seedInput seed info) counter ≠ .ok Scalar.zero

instance (seed info : Bytes) : Decidable (Derivable seed info) :=
  inferInstanceAs (Decidable (∃ counter, counter < counters ∧ _))

theorem input_eq (seed info : Bytes) (h : info.length ≤ 65535) : input seed info = .ok (seedInput seed info) := by
  have hlength : FixedWidth.encode info.length 2 = .ok (Bytes.ofNatBE 2 info.length) :=
    FixedWidth.encode_of_lt _ 2 (by decide) (Nat.lt_of_le_of_lt h (by decide))
  simp only [input, hlength, Outcome.ok_bind, Outcome.pure_eq, seedInput]

theorem candidateInput_eq (input : Bytes) (counter : Nat) (h : counter < 256) :
    candidateInput input counter = .ok (input ++ Bytes.ofNatBE 1 counter) := by
  have hcounter : FixedWidth.encode counter 1 = .ok (Bytes.ofNatBE 1 counter) :=
    FixedWidth.encode_of_lt _ 1 (by decide) (Nat.lt_of_lt_of_le h (by decide))
  simp only [candidateInput, hcounter, Outcome.ok_bind, Outcome.pure_eq]

theorem exists_scalarAt (input : Bytes) (counter : Nat) : ∃ n, scalarAt input counter = .ok (Scalar.ofNat n) := by
  rw [scalarAt]
  exact Scalar.exists_hash (input ++ Bytes.ofNatBE 1 counter) Oprf.deriveKeyPairTag (by decide)

theorem firstScalar_eq (input : Bytes) (counter remaining : Nat) (hc : counter < 256) {scalar : Bytes}
    (hs : scalarAt input counter = .ok scalar) :
    firstScalar input counter (remaining + 1) =
      if scalar = Scalar.zero then
        Run.note (.zeroDerivation counter) >>= fun _ => firstScalar input (counter + 1) remaining
      else pure scalar := by
  rw [scalarAt] at hs
  rw [firstScalar, candidateInput_eq input counter hc, Run.bind_of_ok (a := input ++ Bytes.ofNatBE 1 counter) rfl, hs,
    Run.bind_of_ok (a := scalar) rfl]
  rfl

theorem firstScalar_succ (input : Bytes) (counter remaining n : Nat) (hc : counter < 256)
    (hs : scalarAt input counter = .ok (Scalar.ofNat n)) :
    (firstScalar input counter (remaining + 1)).outcome =
      if Scalar.order ∣ n then (firstScalar input (counter + 1) remaining).outcome else .ok (Scalar.ofNat n) := by
  rw [firstScalar_eq input counter remaining hc hs]
  by_cases hn : Scalar.order ∣ n
  · rw [if_pos hn, if_pos ((Scalar.ofNat_eq_zero_iff n).mpr hn), Run.outcome_bind, Run.outcome_note, Outcome.ok_bind]
  · have hz : Scalar.ofNat n ≠ Scalar.zero := fun he => hn ((Scalar.ofNat_eq_zero_iff n).mp he)
    rw [if_neg hn, if_neg hz, Run.outcome_pure]

theorem firstScalar_outcome (input : Bytes) (counter remaining : Nat) (h : counter + remaining ≤ 256) :
    (∃ c n, counter ≤ c ∧ c < counter + remaining ∧ ¬Scalar.order ∣ n ∧ scalarAt input c = .ok (Scalar.ofNat n) ∧
        (firstScalar input counter remaining).outcome = .ok (Scalar.ofNat n)) ∨
      (∀ c, counter ≤ c → c < counter + remaining → scalarAt input c = .ok Scalar.zero) ∧
        (firstScalar input counter remaining).outcome = .error (.protocol .keyPairExhausted) := by
  induction remaining generalizing counter with
  | zero => exact Or.inr ⟨fun c hl hr => absurd hr (by omega), rfl⟩
  | succ remaining ih =>
      obtain ⟨n, hs⟩ := exists_scalarAt input counter
      rw [firstScalar_succ input counter remaining n (by omega) hs]
      by_cases hn : Scalar.order ∣ n
      -- a zero scalar here: a later counter answers, or all of them are zero and this one with them
      · rw [if_pos hn]
        rcases ih (counter + 1) (by omega) with ⟨c, m, hl, hr, hm, hc, ho⟩ | ⟨hz, ho⟩
        · exact Or.inl ⟨c, m, by omega, by omega, hm, hc, ho⟩
        · refine Or.inr ⟨fun c hl hr => ?_, ho⟩
          by_cases hc : c = counter
          · rw [hc, hs, (Scalar.ofNat_eq_zero_iff n).mpr hn]
          · exact hz c (by omega) (by omega)
      · rw [if_neg hn]
        exact Or.inl ⟨counter, n, by omega, by omega, hn, hs, rfl⟩

theorem derive_eq (G : PrimeGroup) (seed : Bytes) {info : Bytes} (hi : info.length ≤ 65535) :
    derive G seed info = firstScalar (seedInput seed info) 0 counters >>= fun privateKey => do
      let publicKey ← G.multiplyBase privateKey
      return ⟨privateKey, publicKey⟩ := by
  rw [derive, input_eq seed info hi]
  exact Run.ofExcept_ok_bind (seedInput seed info) _

variable {G : PrimeGroup} {E : Type} [AddCommGroup E] (I : G.Interpretation E)

include I

theorem derive_of_derivable (seed info : Bytes) (hi : info.length ≤ 65535) (h : Derivable seed info) :
    ∃ n, ¬Scalar.order ∣ n ∧
      (derive G seed info).outcome = .ok ⟨Scalar.ofNat n, I.encode (n • I.generator)⟩ := by
  obtain ⟨counter, hc, hne⟩ := h
  have hcounters : 0 + counters ≤ 256 := Nat.le_refl _
  rcases firstScalar_outcome (seedInput seed info) 0 counters hcounters with ⟨_, n, _, _, hn, _, ho⟩ | ⟨hz, _⟩
  · refine ⟨n, hn, ?_⟩
    rw [derive_eq G seed hi, Run.outcome_bind, ho, Outcome.ok_bind, Run.outcome_bind, Run.outcome_lift_protocol,
      I.multiplyBase_ofNat n hn, Outcome.mapError_ok, Outcome.ok_bind, Run.outcome_pure]
  · exact absurd (hz counter (Nat.zero_le counter) (by omega)) hne

omit I [AddCommGroup E] in
theorem derive_of_not_derivable (seed info : Bytes) (hi : info.length ≤ 65535) (h : ¬Derivable seed info) :
    (derive G seed info).outcome = .error (.protocol .keyPairExhausted) := by
  have hcounters : 0 + counters ≤ 256 := Nat.le_refl _
  rcases firstScalar_outcome (seedInput seed info) 0 counters hcounters with ⟨c, n, _, hr, hn, hs, _⟩ | ⟨_, ho⟩
  · refine absurd ⟨c, by omega, ?_⟩ h
    rw [hs]
    intro he
    injection he with he
    exact hn ((Scalar.ofNat_eq_zero_iff n).mp he)
  · rw [derive_eq G seed hi, Run.outcome_bind, ho, Outcome.error_bind]

theorem exists_of_derive {seed info : Bytes} {pair : KeyPair} (hi : info.length ≤ 65535)
    (h : (derive G seed info).outcome = .ok pair) :
    ∃ n, ¬Scalar.order ∣ n ∧ pair = ⟨Scalar.ofNat n, I.encode (n • I.generator)⟩ := by
  by_cases hd : Derivable seed info
  · obtain ⟨n, hn, ho⟩ := derive_of_derivable I seed info hi hd
    rw [ho] at h
    exact ⟨n, hn, (Except.ok.inj h).symm⟩
  · rw [derive_of_not_derivable seed info hi hd] at h
    cases h

end PakeRegistration.KeyPair
