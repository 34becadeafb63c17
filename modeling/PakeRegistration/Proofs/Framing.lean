import PakeRegistration.Proofs.Fields

namespace PakeRegistration.Message.Reader

open Outcome

variable {α : Type}

/-- What comes of the octets from an offset on, if nothing is accepted before all of them are taken: where something
is, octets that are cut off are missed at a place behind the cut, and octets that are put behind are counted. -/
def Framed (message : String) (offset : Nat) (result : Bytes → Except DecodeError α) : Prop :=
  ∀ data a, offset ≤ data.length → result data = .ok a →
    (∀ count, offset ≤ count → count < data.length → ∃ expected, count < expected ∧ expected ≤ data.length ∧
      result (data.take count) = .error (.truncated message expected count)) ∧
    ∀ rest, rest ≠ [] → result (data ++ rest) = .error (.trailing message rest.length)

variable {message : String} {offset : Nat}

theorem framed_finish (result : Except DecodeError α) :
    Framed message offset fun data => finish ⟨data, offset, message⟩ >>= fun _ => result := by
  intro data a hl h
  simp only [finish_bind] at h ⊢
  rw [ite_error_eq_ok_iff] at h
  have hall : data.length = offset := Nat.le_antisymm (Nat.not_lt.mp h.1) hl
  refine ⟨fun count ho hc => absurd hc (by omega), fun rest hr => ?_⟩
  have hrest := List.length_pos_iff.mpr hr
  rw [List.length_append, if_pos (by omega), hall, Nat.add_sub_cancel_left]

/-- The octets that are read stay the same whatever is cut off or put behind them, so what is to be shown of the rest
is to be shown for each of their values alone. -/
theorem framed_read {count : Nat} {next : Bytes × Reader → Except DecodeError α}
    (h : ∀ octets, Framed message (offset + count) fun data => next (octets, ⟨data, offset + count, message⟩)) :
    Framed message offset fun data => read ⟨data, offset, message⟩ count >>= next := by
  intro data a _ hok
  simp only [read_bind] at hok ⊢
  rw [ite_error_eq_ok_iff] at hok
  have hl : offset + count ≤ data.length := Nat.not_lt.mp hok.1
  obtain ⟨hcut, hcontinued⟩ := h _ data a hl hok.2
  constructor
  · intro kept _ hkept
    have hlength : (data.take kept).length = kept := List.length_take_of_le (Nat.le_of_lt hkept)
    rw [hlength]
    by_cases hshort : kept < offset + count
    -- the cut is within what this read asks for, or behind it and noticed by what comes next
    · exact ⟨offset + count, hshort, hl, if_pos hshort⟩
    · obtain ⟨expected, hlt, hle, he⟩ := hcut kept (Nat.not_lt.mp hshort) hkept
      refine ⟨expected, hlt, hle, ?_⟩
      rw [if_neg hshort, Bytes.field_take _ _ _ _ (Nat.not_lt.mp hshort)]
      exact he
  · intro rest hr
    have hlong : ¬(data ++ rest).length < offset + count := by
      rw [List.length_append]
      omega
    rw [if_neg hlong, Bytes.field_append _ _ _ _ hl]
    exact hcontinued rest hr

theorem framed_readNat {width : Nat} {next : Nat × Reader → Except DecodeError α}
    (h : ∀ value, Framed message (offset + width) fun data => next (value, ⟨data, offset + width, message⟩)) :
    Framed message offset fun data => readNat ⟨data, offset, message⟩ width >>= next := by
  have hread (r : Reader) : r.readNat width >>= next = r.read width >>= fun x => next (Bytes.toNatBE x.1, x.2) := by
    rw [readNat, bind_assoc]
    rfl
  simp only [hread]
  exact framed_read fun octets => h (Bytes.toNatBE octets)

theorem framed_guard {p : Prop} [Decidable p] {e : DecodeError} {otherwise : Bytes → PUnit → Except DecodeError α}
    {result : Bytes → Except DecodeError α} (h : Framed message offset result) :
    Framed message offset fun data => if p then throw e >>= otherwise data else result data := by
  intro data a hl hok
  by_cases hp : p
  · simp only [if_pos hp] at hok
    cases hok
  · simp only [if_neg hp] at hok ⊢
    exact h data a hl hok

end PakeRegistration.Message.Reader
