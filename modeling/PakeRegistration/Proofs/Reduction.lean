import PakeRegistration.Proofs.Expansion
import PakeRegistration.Proofs.Validation

namespace PakeRegistration

open Outcome

namespace Bytes

theorem toNatLE_zeros (count : Nat) : toNatLE (zeros count) = 0 := by
  induction count with
  | zero => rfl
  | succ count ih =>
      have hzeros : zeros (count + 1) = 0 :: zeros count := rfl
      rw [hzeros, toNatLE, ih]
      rfl

theorem toNatLE_append_zeros (bytes : Bytes) (count : Nat) : toNatLE (bytes ++ zeros count) = toNatLE bytes := by
  induction bytes with
  | nil => exact toNatLE_zeros count
  | cons b bytes ih => rw [List.cons_append, toNatLE, toNatLE, ih]

theorem toNatLE_injective {a b : Bytes} (hl : a.length = b.length) (h : toNatLE a = toNatLE b) : a = b := by
  rw [← ofNatLE_toNatLE a, h, hl, ofNatLE_toNatLE]

end Bytes

namespace Scalar

theorem validate_eq_ite (scalar : Bytes) (field : Text) :
    validate scalar field =
      if scalar.length ≠ 32 then .error (.scalarLength field scalar.length)
      else if Bytes.toNatLE scalar = 0 then .error (.zeroScalar field)
      else if order ≤ Bytes.toNatLE scalar then .error (.unreducedScalar field)
      else .ok scalar := by
  split
  next hl => exact if_pos hl
  next hl => rw [← bind_pure (validate scalar field), validate_bind scalar field pure (not_not.mp hl), pure_eq]

theorem validate_eq_ok_iff {scalar result : Bytes} {field : Text} :
    validate scalar field = .ok result ↔ result = scalar ∧ Canonical scalar := by
  rw [validate_eq_ite]
  simp only [ite_error_eq_ok_iff, not_not, not_le, Except.ok.injEq, Canonical, Nat.pos_iff_ne_zero, size]
  constructor
  · rintro ⟨hl, hz, hlt, rfl⟩
    exact ⟨rfl, hl, hz, hlt⟩
  · rintro ⟨rfl, hl, hz, hlt⟩
    exact ⟨hl, hz, hlt, rfl⟩

theorem category_of_validate {scalar : Bytes} {field : Text} {e : DecodeError} (h : validate scalar field = .error e) :
    (Error.decode e).category = .scalar := by
  rw [validate_eq_ite] at h
  repeat' split at h
  all_goals cases h
  all_goals rfl

/-- Validation with the reduction in it, of the octets with zeros behind them. A refusal of their number by the
reduction would come out. -/
def validateByReduction (scalar : Bytes) (field : Text) : Except Error Bytes := do
  if scalar.length ≠ size then throw (.decode (.scalarLength field scalar.length))
  if scalar = zero then throw (.decode (.zeroScalar field))
  let reduced ← reduce (scalar ++ Bytes.zeros (uniformSize - size))
  if reduced ≠ scalar then throw (.decode (.unreducedScalar field))
  return scalar

theorem reduce_append_zeros (scalar : Bytes) (h : scalar.length = 32) :
    reduce (scalar ++ Bytes.zeros 32) = .ok (ofNat (Bytes.toNatLE scalar)) := by
  rw [reduce, if_pos (by rw [List.length_append, h, Bytes.zeros_length]; rfl), Bytes.toNatLE_append_zeros]

theorem reduce_append_zeros_eq_iff (scalar : Bytes) (h : scalar.length = 32) :
    reduce (scalar ++ Bytes.zeros 32) = .ok scalar ↔ Bytes.toNatLE scalar < order := by
  rw [reduce_append_zeros scalar h, Except.ok.injEq]
  exact ofNat_toNatLE_eq_iff scalar h

theorem validateByReduction_eq (scalar : Bytes) (field : Text) :
    validateByReduction scalar field = (validate scalar field).mapError .decode := by
  rw [validateByReduction, validate]
  split
  next hl => rfl
  next hl =>
    have hreduce := reduce_append_zeros scalar (not_not.mp hl)
    split
    next hz => rfl
    next hz =>
      simp only [uniformSize, size, Nat.reduceSub, hreduce, lift_range, mapError_ok, ok_bind, pure_eq]
      split <;> rfl

/-- The octets of a number's residue: zero for the multiples of the order, and accepted for all other numbers. -/
structure Residue (n : Nat) (scalar : Bytes) : Prop where
  eq_ofNatLE : scalar = Bytes.ofNatLE 32 (n % order)
  eq_zero_iff : scalar = zero ↔ order ∣ n
  accepted_iff (field : Text) : validate scalar field = .ok scalar ↔ ¬order ∣ n

theorem residue_ofNat (n : Nat) : Residue n (ofNat n) where
  eq_ofNatLE := rfl
  eq_zero_iff := ofNat_eq_zero_iff n
  accepted_iff field := by
    constructor
    · intro h hd
      exact (validate_eq_ok_iff.mp h).2.ne_zero ((ofNat_eq_zero_iff n).mpr hd)
    · intro hn
      exact validate_eq_ok_iff.mpr ⟨rfl, canonical_ofNat n hn⟩

theorem eq_of_mod_eq {scalar scalar' : Bytes} (h : Canonical scalar) (h' : Canonical scalar')
    (hmod : Bytes.toNatLE scalar % order = Bytes.toNatLE scalar' % order) : scalar = scalar' := by
  rw [Nat.mod_eq_of_lt h.2.2, Nat.mod_eq_of_lt h'.2.2] at hmod
  exact Bytes.toNatLE_injective (h.1.trans h'.1.symm) hmod

structure Validation (scalar : Bytes) (field : Text) : Prop where
  eq_ok_iff (result : Bytes) : validate scalar field = .ok result ↔
    result = scalar ∧ scalar.length = 32 ∧ 1 ≤ Bytes.toNatLE scalar ∧ Bytes.toNatLE scalar < order
  eq_ite : validate scalar field =
    if scalar.length ≠ 32 then .error (.scalarLength field scalar.length)
    else if Bytes.toNatLE scalar = 0 then .error (.zeroScalar field)
    else if order ≤ Bytes.toNatLE scalar then .error (.unreducedScalar field)
    else .ok scalar
  category (e : DecodeError) (h : validate scalar field = .error e) : (Error.decode e).category = .scalar
  byReduction_eq : validateByReduction scalar field = (validate scalar field).mapError .decode

theorem validation (scalar : Bytes) (field : Text) : Validation scalar field where
  eq_ok_iff _ := validate_eq_ok_iff
  eq_ite := validate_eq_ite scalar field
  category _ h := category_of_validate h
  byReduction_eq := validateByReduction_eq scalar field

theorem exists_residue_of_reduce (uniform : Bytes) (h : uniform.length = 64) :
    ∃ scalar, reduce uniform = .ok scalar ∧ Residue (Bytes.toNatLE uniform) scalar :=
  ⟨_, if_pos h, residue_ofNat _⟩

theorem exists_residue_of_hash (message tag : Bytes) (h : tag.length ≤ 255) :
    ∃ uniform scalar, uniform.length = 64 ∧ Expander.expand message tag 64 = .ok uniform ∧
      hash message tag = .ok scalar ∧ Residue (Bytes.toNatLE uniform) scalar := by
  obtain ⟨uniform, hl, hu, hs, _⟩ := Expander.exists_uniform message tag h
  exact ⟨uniform, _, hl, hu, hs, residue_ofNat _⟩

/-- Validation accepts the octets of the numbers from one up to the order, each of which has no others; reduction and
hashing give those octets, or zero for the multiples of the order. -/
theorem validation_exact :
    (∀ scalar field, Validation scalar field) ∧
      (∀ uniform : Bytes, uniform.length = 64 →
        ∃ scalar, reduce uniform = .ok scalar ∧ Residue (Bytes.toNatLE uniform) scalar) ∧
      (∀ uniform : Bytes, uniform.length ≠ 64 →
        ∃ e, reduce uniform = .error e ∧ (Error.range e).category = .value) ∧
      (∀ scalar : Bytes, scalar.length = 32 →
        (reduce (scalar ++ Bytes.zeros 32) = .ok scalar ↔ Bytes.toNatLE scalar < order)) ∧
      (∀ scalar scalar' field field', validate scalar field = .ok scalar → validate scalar' field' = .ok scalar' →
        Bytes.toNatLE scalar % order = Bytes.toNatLE scalar' % order → scalar = scalar') ∧
      ∀ message tag : Bytes, tag.length ≤ 255 →
        ∃ uniform scalar, uniform.length = 64 ∧ Expander.expand message tag 64 = .ok uniform ∧
          hash message tag = .ok scalar ∧ Residue (Bytes.toNatLE uniform) scalar := by
  refine ⟨validation, exists_residue_of_reduce, fun uniform h => ⟨_, if_neg h, rfl⟩, reduce_append_zeros_eq_iff, ?_,
    exists_residue_of_hash⟩
  intro scalar scalar' field field' h h'
  exact eq_of_mod_eq (validate_eq_ok_iff.mp h).2 (validate_eq_ok_iff.mp h').2

theorem validation_exact_at_order :
    validate (Bytes.ofNatLE 32 (order - 1)) "scalar" = .ok (Bytes.ofNatLE 32 (order - 1)) ∧
      validateByReduction (Bytes.ofNatLE 32 order) "scalar" = .error (.decode (.unreducedScalar "scalar")) ∧
      reduce (Bytes.ofNatLE 32 order ++ Bytes.zeros 32) ≠ .ok (Bytes.ofNatLE 32 order) ∧
      reduce (Bytes.ofNatLE 64 (order * order)) = .ok zero ∧
      (∃ e, reduce (Bytes.zeros 63) = .error e ∧ (Error.range e).category = .value) ∧
      (∃ scalar, reduce (Bytes.ofNatLE 64 (order * order + 5)) = .ok scalar ∧ scalar = Bytes.ofNatLE 32 5) ∧
      ∃ scalar, hash (Bytes.ascii "message") Oprf.deriveKeyPairTag = .ok scalar ∧
        validate scalar "scalar" = .ok scalar := by
  have hlast : Bytes.toNatLE (Bytes.ofNatLE 32 (order - 1)) = order - 1 := by decide +kernel
  have horder : Bytes.toNatLE (Bytes.ofNatLE 32 order) = order := by decide +kernel
  have hfive : Bytes.toNatLE (Bytes.ofNatLE 32 5) = 5 := by decide +kernel
  have hsquare : Bytes.toNatLE (Bytes.ofNatLE 64 (order * order)) % order = 0 := by decide +kernel
  have hsum : Bytes.toNatLE (Bytes.ofNatLE 64 (order * order + 5)) % order = 5 := by decide +kernel
  obtain ⟨hvalidation, hreduce, hlength, hfixed, hinjective, hhash⟩ := validation_exact
  obtain ⟨multiple, hm, hmultiple⟩ := hreduce (Bytes.ofNatLE 64 (order * order)) (by simp)
  obtain ⟨five, hf, hresidue⟩ := hreduce (Bytes.ofNatLE 64 (order * order + 5)) (by simp)
  obtain ⟨_, scalar, _, _, hs, hscalar⟩ := hhash (Bytes.ascii "message") Oprf.deriveKeyPairTag (by decide)
  refine ⟨?_, ?_, ?_, ?_, hlength _ (by simp), ⟨five, hf, ?_⟩, ⟨scalar, hs, ?_⟩⟩
  · rw [(hvalidation _ _).eq_ok_iff, hlast]
    exact ⟨rfl, by simp, by decide, by decide⟩
  · rw [(hvalidation _ _).byReduction_eq, (hvalidation _ _).eq_ite, horder]
    rfl
  · rw [ne_eq, hfixed _ (by simp), horder]
    exact Nat.lt_irrefl order
  · rw [hm, hmultiple.eq_zero_iff.mpr (Nat.dvd_of_mod_eq_zero hsquare)]
  · have haccepted : validate (Bytes.ofNatLE 32 5) "scalar" = .ok (Bytes.ofNatLE 32 5) := by
      rw [(hvalidation _ _).eq_ok_iff, hfive]
      exact ⟨rfl, by simp, by decide, by decide⟩
    refine hinjective five _ "scalar" "scalar" ((hresidue.accepted_iff _).mpr ?_) haccepted ?_
    · rw [Nat.dvd_iff_mod_eq_zero, hsum]
      decide
    · rw [hresidue.eq_ofNatLE, hsum]
  · refine (hscalar.accepted_iff _).mpr fun hd => ?_
    have hne : hash (Bytes.ascii "message") Oprf.deriveKeyPairTag ≠ .ok zero := by decide +kernel
    exact hne (hs.trans (congrArg Except.ok (hscalar.eq_zero_iff.mpr hd)))

end Scalar

end PakeRegistration
