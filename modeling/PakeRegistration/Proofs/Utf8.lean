import PakeRegistration.Text

namespace PakeRegistration

namespace CodePoint

def low (b : UInt8) : Nat := b.toNat - 0x80

def next? : Bytes → Option (Nat × Bytes)
  | [] => none
  | a :: rest =>
      if a.toNat < 0x80 then some (a.toNat, rest)
      else if a.toNat < 0xE0 then
        match rest with
        | b :: rest => some ((a.toNat - 0xC0) * 64 + low b, rest)
        | _ => none
      else if a.toNat < 0xF0 then
        match rest with
        | b :: c :: rest => some ((a.toNat - 0xE0) * 4096 + low b * 64 + low c, rest)
        | _ => none
      else
        match rest with
        | b :: c :: d :: rest => some ((a.toNat - 0xF0) * 262144 + low b * 4096 + low c * 64 + low d, rest)
        | _ => none

theorem toNat_ofNat {n : Nat} (h : n < 256) : (UInt8.ofNat n).toNat = n :=
  UInt8.toNat_ofNat_of_lt' h

theorem low_ofNat (n : Nat) : low (UInt8.ofNat (0x80 + n % 64)) = n % 64 := by
  have hb := toNat_ofNat (n := 0x80 + n % 64) (by omega)
  unfold low
  omega

theorem next?_utf8_append (c : CodePoint) (rest : Bytes) : next? (c.utf8 ++ rest) = some (c.val, rest) := by
  have hc : c.val < 0x110000 := c.isLt
  -- one case for each count of octets; the bounds of its numbers put the first octet where `next?` looks for it
  unfold utf8
  split
  · have ha := toNat_ofNat (n := c.val) (by omega)
    simp only [List.cons_append, List.nil_append, next?, ha]
    rw [if_pos (by omega)]
  split
  · have ha := toNat_ofNat (n := 0xC0 + c.val / 64) (by omega)
    simp only [List.cons_append, List.nil_append, next?, ha, low_ofNat]
    rw [if_neg (by omega), if_pos (by omega)]
    simp only [Option.some.injEq, Prod.mk.injEq, and_true]
    omega
  split
  · have ha := toNat_ofNat (n := 0xE0 + c.val / 4096) (by omega)
    simp only [List.cons_append, List.nil_append, next?, ha, low_ofNat]
    rw [if_neg (by omega), if_neg (by omega), if_pos (by omega)]
    simp only [Option.some.injEq, Prod.mk.injEq, and_true]
    omega
  · have ha := toNat_ofNat (n := 0xF0 + c.val / 262144) (by omega)
    simp only [List.cons_append, List.nil_append, next?, ha, low_ofNat]
    rw [if_neg (by omega), if_neg (by omega), if_neg (by omega)]
    simp only [Option.some.injEq, Prod.mk.injEq, and_true]
    omega

theorem utf8_append_inj {c d : CodePoint} {rest rest' : Bytes} (h : c.utf8 ++ rest = d.utf8 ++ rest') :
    c = d ∧ rest = rest' := by
  have hnext := congrArg next? h
  rw [next?_utf8_append, next?_utf8_append, Option.some.injEq, Prod.mk.injEq] at hnext
  exact ⟨Fin.ext hnext.1, hnext.2⟩

theorem utf8_ne_nil (c : CodePoint) : c.utf8 ≠ [] := by
  intro h
  have hnext := next?_utf8_append c []
  rw [h] at hnext
  cases hnext

end CodePoint

namespace Text

theorem flatMap_utf8_injective {t t' : Text} (h : t.flatMap CodePoint.utf8 = t'.flatMap CodePoint.utf8) : t = t' := by
  induction t generalizing t' with
  | nil =>
      cases t' with
      | nil => rfl
      | cons d t' => exact absurd (List.append_eq_nil_iff.mp h.symm).1 d.utf8_ne_nil
  | cons c t ih =>
      cases t' with
      | nil => exact absurd (List.append_eq_nil_iff.mp h).1 c.utf8_ne_nil
      | cons d t' =>
          rw [List.flatMap_cons, List.flatMap_cons] at h
          obtain ⟨rfl, hrest⟩ := CodePoint.utf8_append_inj h
          rw [ih hrest]

theorem eq_flatMap_of_utf8 {t : Text} {octets : Bytes} (h : t.utf8 = .ok octets) :
    octets = t.flatMap CodePoint.utf8 := by
  unfold utf8 at h
  split at h
  · cases h
  · exact (Except.ok.inj h).symm

theorem utf8_injective {t t' : Text} {octets : Bytes} (h : t.utf8 = .ok octets) (h' : t'.utf8 = .ok octets) :
    t = t' :=
  flatMap_utf8_injective ((eq_flatMap_of_utf8 h).symm.trans (eq_flatMap_of_utf8 h'))

end Text

end PakeRegistration
