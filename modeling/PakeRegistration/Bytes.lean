namespace PakeRegistration

abbrev Bytes := List UInt8

namespace Bytes

def ascii (text : String) : Bytes :=
  text.toList.map fun c => UInt8.ofNat c.toNat

def zeros (count : Nat) : Bytes :=
  List.replicate count 0

def xor (a b : Bytes) : Bytes :=
  List.zipWith (· ^^^ ·) a b

/-- The longest octet string that may be asked for. -/
def maxLength : Nat := 0x7FFFFFFFFFFFFFDE

def capacity (width : Nat) : Nat :=
  Nat.pow 256 width

def toNatLE : Bytes → Nat
  | [] => 0
  | b :: rest => b.toNat + 256 * toNatLE rest

def ofNatLE : (width value : Nat) → Bytes
  | 0, _ => []
  | width + 1, value => UInt8.ofNat (value % 256) :: ofNatLE width (value / 256)

def toNatBE (bytes : Bytes) : Nat :=
  toNatLE bytes.reverse

def ofNatBE (width value : Nat) : Bytes :=
  (ofNatLE width value).reverse

theorem capacity_succ (width : Nat) : capacity (width + 1) = 256 * capacity width :=
  Nat.mul_comm _ _

@[simp] theorem zeros_length (count : Nat) : (zeros count).length = count := by
  simp [zeros]

@[simp] theorem ofNatLE_length (width value : Nat) : (ofNatLE width value).length = width := by
  induction width generalizing value with
  | zero => rfl
  | succ width ih => simp [ofNatLE, ih]

@[simp] theorem ofNatBE_length (width value : Nat) : (ofNatBE width value).length = width := by
  simp [ofNatBE]

theorem toNatLE_lt (bytes : Bytes) : toNatLE bytes < capacity bytes.length := by
  induction bytes with
  | nil => simp [toNatLE, capacity]
  | cons b rest ih =>
      have hb := b.toNat_lt
      simp only [toNatLE, List.length_cons, capacity_succ]
      omega

theorem toNatLE_ofNatLE (width value : Nat) : toNatLE (ofNatLE width value) = value % capacity width := by
  induction width generalizing value with
  | zero => simp [ofNatLE, toNatLE, capacity, Nat.mod_one]
  | succ width ih =>
      have hb : (UInt8.ofNat (value % 256)).toNat = value % 256 := by simp
      rw [ofNatLE, toNatLE, ih, hb, capacity_succ, Nat.mod_mul]

theorem ofNatLE_toNatLE (bytes : Bytes) : ofNatLE bytes.length (toNatLE bytes) = bytes := by
  induction bytes with
  | nil => rfl
  | cons b rest ih =>
      have hb := b.toNat_lt
      have hmod : (b.toNat + 256 * toNatLE rest) % 256 = b.toNat := by omega
      have hdiv : (b.toNat + 256 * toNatLE rest) / 256 = toNatLE rest := by omega
      simp [ofNatLE, toNatLE, hmod, hdiv, ih]

end Bytes

end PakeRegistration
