import PakeRegistration.Oprf
import PakeRegistration.Proofs.FixedWidth
import PakeRegistration.Proofs.PrimeGroup

namespace PakeRegistration

namespace Expander

theorem expand_natCast (message tag : Bytes) (length : Nat) (hl : length ≤ 16320) (ht : tag.length ≤ 255) :
    expand message tag length =
      .ok ((chain (Sha512.hash (seedInput message (Bytes.ofNatBE 2 length) (tag ++ Bytes.ofNatBE 1 tag.length)))
        (tag ++ Bytes.ofNatBE 1 tag.length) (Bytes.zeros Sha512.digestSize) 1 ((length + 63) / 64)).take length) := by
  have hcount : -(-(length : Int) / 64) = ((length + 63) / 64 : Nat) := by omega
  have hlimit : ¬((maxBlocks : Int) < ((length + 63) / 64 : Nat) ∨ 65535 < (length : Int)) := by
    simp only [maxBlocks]
    omega
  have htag : FixedWidth.encode tag.length 1 = .ok (Bytes.ofNatBE 1 tag.length) :=
    FixedWidth.encode_of_lt tag.length 1 (by decide) (Nat.lt_of_le_of_lt ht (by decide))
  have hlength : FixedWidth.encode length 2 = .ok (Bytes.ofNatBE 2 length) :=
    FixedWidth.encode_of_lt length 2 (by decide) (Nat.lt_of_le_of_lt hl (by decide))
  have hmax : ¬maxTag < tag.length := Nat.not_lt.mpr ht
  simp only [expand, hcount, hlimit, hmax, htag, hlength, if_false, Outcome.ok_bind, Outcome.pure_eq,
    Int.toNat_natCast]

theorem exists_expand (message tag : Bytes) (length : Nat) (hl : length ≤ 16320) (ht : tag.length ≤ 255) :
    ∃ uniform, expand message tag length = .ok uniform ∧ uniform.length = length := by
  refine ⟨_, expand_natCast message tag length hl ht, ?_⟩
  simp only [List.length_take, chain_length]
  omega

end Expander

theorem Scalar.exists_hash (message tag : Bytes) (h : tag.length ≤ 255) : ∃ n, hash message tag = .ok (ofNat n) := by
  obtain ⟨uniform, hu, hl⟩ := Expander.exists_expand message tag Scalar.uniformSize (by decide) h
  exact ⟨Bytes.toNatLE uniform, by simp [hash, hu, reduce, hl]⟩

namespace Oprf

theorem exists_hashToGroup (G : PrimeGroup) (message : Bytes) :
    ∃ uniform, uniform.length = Scalar.uniformSize ∧ hashToGroup G message = .ok (G.ofUniform uniform) := by
  obtain ⟨uniform, hu, hl⟩ :=
    Expander.exists_expand message hashToGroupTag Scalar.uniformSize (by decide) (by decide)
  exact ⟨uniform, hl, by simp [hashToGroup, PrimeGroup.hash, hu]⟩

theorem exists_randomScalar {source : RandomSource} {call : Nat} {scalar : Bytes}
    (h : (randomScalar source call).outcome = .ok scalar) : ∃ n, scalar = Scalar.ofNat n := by
  simp only [randomScalar, Run.outcome_bind, Run.outcome_lift_range, Outcome.bind_eq_ok_iff,
    Outcome.mapError_eq_ok_iff] at h
  obtain ⟨uniform, _, hr⟩ := h
  unfold Scalar.reduce at hr
  split at hr
  · cases hr
    exact ⟨_, rfl⟩
  · cases hr

/-- However many draws were thrown away before, the blind that is found is a scalar off the multiples of the order,
and the element is its multiple of the input. -/
theorem attempts_blind (G : PrimeGroup) (source : RandomSource) (input : Bytes) (attempt remaining : Nat)
    (found : Blinded) (h : (attempts G source input attempt remaining).outcome = .ok (some found)) :
    ∃ n, ¬Scalar.order ∣ n ∧ found.blind = Scalar.ofNat n ∧ G.multiply found.blind input = .ok found.element := by
  induction remaining generalizing attempt with
  | zero => cases h
  | succ remaining ih =>
      simp only [attempts, Run.outcome_bind, Outcome.bind_eq_ok_iff] at h
      obtain ⟨blind, hb, h⟩ := h
      obtain ⟨n, rfl⟩ := exists_randomScalar hb
      split at h
      -- a draw that is thrown away leaves the same search with one attempt less
      · simp only [Run.outcome_bind, Run.outcome_note, Outcome.ok_bind] at h
        exact ih _ h
      next husable =>
        split at h
        next element hm =>
          cases h
          refine ⟨n, ?_, rfl, hm⟩
          intro hd
          exact husable (Or.inl ((Scalar.ofNat_eq_zero_iff n).mpr hd))
        · simp only [Run.outcome_bind, Run.outcome_note, Outcome.ok_bind] at h
          exact ih _ h

theorem exists_blind {G : PrimeGroup} {source : RandomSource} {password : Bytes} {limit : Int} {found : Blinded}
    (h : (blind G source password limit).outcome = .ok found) :
    ∃ n input, ¬Scalar.order ∣ n ∧ found.blind = Scalar.ofNat n ∧ hashToGroup G password = .ok input ∧
      G.multiply found.blind input = .ok found.element := by
  simp only [blind, Run.outcome_bind, Run.outcome_lift_range, Outcome.bind_eq_ok_iff,
    Outcome.mapError_eq_ok_iff] at h
  obtain ⟨input, hi, result, hr, h⟩ := h
  cases result with
  | none => cases h
  | some blinded =>
      cases h
      obtain ⟨n, hn, hb, hm⟩ := attempts_blind G source input 1 limit.toNat _ hr
      exact ⟨n, input, hn, hb, hi, hm⟩

theorem transcript_eq (password element : Bytes) (hp : password.length ≤ 65535) (he : element.length ≤ 65535) :
    transcript password element =
      .ok (Bytes.ofNatBE 2 password.length ++ password ++ Bytes.ofNatBE 2 element.length ++ element ++
        finalizeLabel) := by
  have hcapacity : 65535 < Bytes.capacity 2 := by decide
  have hpassword : FixedWidth.encode password.length 2 = .ok (Bytes.ofNatBE 2 password.length) :=
    FixedWidth.encode_of_lt _ 2 (by decide) (Nat.lt_of_le_of_lt hp hcapacity)
  have helement : FixedWidth.encode element.length 2 = .ok (Bytes.ofNatBE 2 element.length) :=
    FixedWidth.encode_of_lt _ 2 (by decide) (Nat.lt_of_le_of_lt he hcapacity)
  simp only [transcript, hpassword, helement, Outcome.ok_bind, Outcome.pure_eq]

theorem finalize_length {G : PrimeGroup} {password blind evaluated output : Bytes}
    (h : finalize G password blind evaluated = .ok output) : output.length = Sha512.digestSize := by
  simp only [finalize, Outcome.lift_protocol, Outcome.lift_range, Outcome.bind_eq_ok_iff] at h
  obtain ⟨_, _, _, _, transcript, _, h⟩ := h
  rw [← Except.ok.inj h]
  exact Sha512.hash_length transcript

/-- Unblinding multiplies by the inverse of the blind and by nothing else. -/
theorem finalize_encode {G : PrimeGroup} {E : Type} [AddCommGroup E] (I : G.Interpretation E) (password : Bytes)
    (hp : password.length ≤ 65535) (n : Nat) (hn : ¬Scalar.order ∣ n) (P : E) (hP : P ≠ 0) :
    ∃ m, n * m % Scalar.order = 1 ∧
      finalize G password (Scalar.ofNat n) (I.encode P) =
        .ok (Sha512.hash (Bytes.ofNatBE 2 password.length ++ password ++ Bytes.ofNatBE 2 PrimeGroup.elementSize ++
          I.encode (m • P) ++ finalizeLabel)) := by
  obtain ⟨m, hi, hm⟩ := Scalar.invert_ofNat n hn
  have hmd := Scalar.not_dvd_of_mul_mod hm
  have hlength := I.encode_length (m • P)
  have htranscript := transcript_eq password (I.encode (m • P)) hp (by rw [hlength]; decide)
  refine ⟨m, hm, ?_⟩
  simp only [finalize, hi, I.multiply_encode m P hmd hP, htranscript, hlength, Outcome.lift_protocol,
    Outcome.lift_range, Outcome.mapError_ok, Outcome.ok_bind, Outcome.pure_eq]

end Oprf

end PakeRegistration
