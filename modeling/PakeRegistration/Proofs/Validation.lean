import PakeRegistration.Proofs.PrimeGroup

namespace PakeRegistration

variable {α : Type}

namespace PrimeGroup

def Accepts (G : PrimeGroup) (element : Bytes) : Prop :=
  element.length = elementSize ∧ element ≠ identity ∧ G.isElement element = true

instance (G : PrimeGroup) : DecidablePred G.Accepts :=
  fun _ => inferInstanceAs (Decidable (_ ∧ _))

theorem validate_bind (G : PrimeGroup) (element : Bytes) (field : Text) (f : Bytes → Except DecodeError α)
    (h : element.length = elementSize) :
    (G.validate element field >>= f) =
      if element = identity then .error (.identityElement field)
      else if ¬G.isElement element then .error (.elementEncoding field)
      else f element := by
  rw [validate, if_neg (not_not.mpr h)]
  split
  · rfl
  · cases G.isElement element <;> rfl

theorem Accepts.validate {G : PrimeGroup} {element : Bytes} (h : G.Accepts element) (field : Text) :
    G.validate element field = .ok element := by
  obtain ⟨hl, hidentity, helement⟩ := h
  rw [PrimeGroup.validate, if_neg (not_not.mpr hl), if_neg hidentity, if_pos helement]

theorem Interpretation.accepts_encode {G : PrimeGroup} {E : Type} [AddCommGroup E] (I : G.Interpretation E) (P : E)
    (hP : P ≠ 0) : G.Accepts (I.encode P) :=
  ⟨I.encode_length P, fun h => hP ((I.encode_eq_identity_iff P).mp h), (I.isElement_iff _).mpr ⟨P, rfl⟩⟩

theorem Interpretation.exists_encode_of_accepts {G : PrimeGroup} {E : Type} [AddCommGroup E] (I : G.Interpretation E)
    {element : Bytes} (h : G.Accepts element) : ∃ P, P ≠ 0 ∧ element = I.encode P :=
  (I.exists_encode_of_validate (h.validate "element")).2

end PrimeGroup

namespace Scalar

/-- The octets of a number from one up to the order. -/
def Canonical (scalar : Bytes) : Prop :=
  scalar.length = size ∧ 0 < Bytes.toNatLE scalar ∧ Bytes.toNatLE scalar < order

theorem eq_zero_iff (scalar : Bytes) (h : scalar.length = size) : scalar = zero ↔ Bytes.toNatLE scalar = 0 := by
  have hz : Bytes.toNatLE zero = 0 := by decide
  constructor
  · rintro rfl
    exact hz
  · intro hv
    rw [← Bytes.ofNatLE_toNatLE scalar, hv, h]
    rfl

/-- Reduction leaves the octets of the numbers below the order as they are, and no others. -/
theorem ofNat_toNatLE_eq_iff (scalar : Bytes) (h : scalar.length = size) :
    ofNat (Bytes.toNatLE scalar) = scalar ↔ Bytes.toNatLE scalar < order := by
  constructor
  · intro he
    rw [← he, toNatLE_ofNat]
    exact Nat.mod_lt _ order_pos
  · intro hlt
    rw [ofNat, Nat.mod_eq_of_lt hlt, ← h, Bytes.ofNatLE_toNatLE]

theorem validate_bind (scalar : Bytes) (field : Text) (f : Bytes → Except DecodeError α) (h : scalar.length = size) :
    (validate scalar field >>= f) =
      if Bytes.toNatLE scalar = 0 then .error (.zeroScalar field)
      else if order ≤ Bytes.toNatLE scalar then .error (.unreducedScalar field)
      else f scalar := by
  rw [validate, if_neg (not_not.mpr h)]
  simp only [eq_zero_iff scalar h, ne_eq, ofNat_toNatLE_eq_iff scalar h, not_lt]
  split
  · rfl
  · split <;> rfl

theorem canonical_ofNat (n : Nat) (h : ¬order ∣ n) : Canonical (ofNat n) := by
  have hpos : 0 < n % order := Nat.pos_of_ne_zero fun hz => h (Nat.dvd_of_mod_eq_zero hz)
  rw [Canonical, toNatLE_ofNat]
  exact ⟨ofNat_length n, hpos, Nat.mod_lt n order_pos⟩

theorem Canonical.ne_zero {scalar : Bytes} (h : Canonical scalar) : scalar ≠ zero := by
  obtain ⟨hl, hpos, _⟩ := h
  intro hz
  exact absurd ((eq_zero_iff scalar hl).mp hz) (Nat.ne_of_gt hpos)

theorem Canonical.exists_ofNat {scalar : Bytes} (h : Canonical scalar) : ∃ n, ¬order ∣ n ∧ scalar = ofNat n := by
  obtain ⟨hl, hpos, hlt⟩ := h
  refine ⟨Bytes.toNatLE scalar, ?_, ((ofNat_toNatLE_eq_iff scalar hl).mpr hlt).symm⟩
  intro hd
  exact absurd (Nat.le_of_dvd hpos hd) (Nat.not_le.mpr hlt)

end Scalar

end PakeRegistration
