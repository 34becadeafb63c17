import PakeRegistration.Message.Reader
import PakeRegistration.Proofs.Outcome

namespace PakeRegistration

namespace Bytes

def field (data : Bytes) (offset width : Nat) : Bytes :=
  (data.drop offset).take width

def number (data : Bytes) (offset width : Nat) : Nat :=
  toNatBE (data.field offset width)

theorem field_length (data : Bytes) (offset width : Nat) (h : offset + width ≤ data.length) :
    (data.field offset width).length = width := by
  rw [field, List.length_take, List.length_drop]
  omega

theorem field_all {data : Bytes} {width : Nat} (h : data.length ≤ width) : data.field 0 width = data := by
  rw [field, List.drop_zero, List.take_of_length_le h]

theorem field_append_field (data : Bytes) (offset m n : Nat) :
    data.field offset m ++ data.field (offset + m) n = data.field offset (m + n) := by
  rw [field, field, field, ← List.drop_drop, List.take_add]

theorem field_take (data : Bytes) (count offset width : Nat) (h : offset + width ≤ count) :
    Bytes.field (data.take count) offset width = data.field offset width := by
  rw [field, field, List.drop_take, List.take_take, Nat.min_eq_left (by omega)]

theorem field_append (data rest : Bytes) (offset width : Nat) (h : offset + width ≤ data.length) :
    Bytes.field (data ++ rest) offset width = data.field offset width := by
  rw [field, field, List.drop_append_of_le_length (by omega), List.take_append_of_le_length]
  rw [List.length_drop]
  omega

theorem field_of_eq_append {data a b c : Bytes} {offset width : Nat} (h : data = a ++ (b ++ c))
    (ho : a.length = offset) (hw : b.length = width) : data.field offset width = b := by
  subst ho hw
  rw [field, h, List.drop_left, List.take_left]

theorem toNatBE_ofNatBE (width value : Nat) (h : value < capacity width) :
    toNatBE (ofNatBE width value) = value := by
  rw [toNatBE, ofNatBE, List.reverse_reverse, toNatLE_ofNatLE, Nat.mod_eq_of_lt h]

theorem ofNatBE_toNatBE (bytes : Bytes) : ofNatBE bytes.length (toNatBE bytes) = bytes := by
  rw [ofNatBE, toNatBE, ← List.length_reverse, ofNatLE_toNatLE, List.reverse_reverse]

theorem toNatBE_lt (bytes : Bytes) : toNatBE bytes < capacity bytes.length := by
  rw [toNatBE, ← List.length_reverse]
  exact toNatLE_lt bytes.reverse

theorem one_lt_capacity {width : Nat} (h : width ≠ 0) : 1 < capacity width :=
  Nat.one_lt_pow h (by decide)

theorem ofNatBE_injective {width m n : Nat} (hm : m < capacity width) (hn : n < capacity width)
    (h : ofNatBE width m = ofNatBE width n) : m = n := by
  rw [← toNatBE_ofNatBE width m hm, h, toNatBE_ofNatBE width n hn]

theorem ofNatBE_number (data : Bytes) (offset width : Nat) (h : offset + width ≤ data.length) :
    ofNatBE width (data.number offset width) = data.field offset width := by
  have hl := data.field_length offset width h
  calc ofNatBE width (data.number offset width)
      = ofNatBE (data.field offset width).length (toNatBE (data.field offset width)) := by rw [hl, number]
    _ = data.field offset width := ofNatBE_toNatBE _

theorem number_of_eq_append {data a c : Bytes} {offset width value : Nat}
    (h : data = a ++ (ofNatBE width value ++ c)) (ho : a.length = offset) (hv : value < capacity width) :
    data.number offset width = value := by
  rw [number, field_of_eq_append h ho (ofNatBE_length width value), toNatBE_ofNatBE width value hv]

end Bytes

namespace Message.Reader

variable {α : Type} (data : Bytes) (offset : Nat) (message : String)

theorem read_bind (count : Nat) (f : Bytes × Reader → Except DecodeError α) :
    (read ⟨data, offset, message⟩ count >>= f) =
      if data.length < offset + count then .error (.truncated message (offset + count) data.length)
      else f (data.field offset count, ⟨data, offset + count, message⟩) := by
  rw [read]
  split <;> rfl

theorem readNat_bind (width : Nat) (f : Nat × Reader → Except DecodeError α) :
    (readNat ⟨data, offset, message⟩ width >>= f) =
      if data.length < offset + width then .error (.truncated message (offset + width) data.length)
      else f (data.number offset width, ⟨data, offset + width, message⟩) := by
  rw [readNat, bind_assoc, read_bind]
  rfl

theorem finish_bind (f : Unit → Except DecodeError α) :
    (finish ⟨data, offset, message⟩ >>= f) =
      if offset < data.length then .error (.trailing message (data.length - offset)) else f () := by
  rw [finish]
  split <;> rfl

end Message.Reader

end PakeRegistration
