import PakeRegistration.Proofs.Fields

namespace PakeRegistration.Message.Reader

inductive Call where
  | octets (count : Nat)
  | number (width : Nat)
deriving DecidableEq, Repr

inductive Value where
  | octets (chunk : Bytes)
  | number (value : Nat)
deriving DecidableEq, Repr

namespace Call

def width : Call → Nat
  | octets count => count
  | number width => width

def value (chunk : Bytes) : Call → Value
  | octets _ => .octets chunk
  | number _ => .number (Bytes.toNatBE chunk)

def on (r : Reader) : Call → Except DecodeError (Value × Reader)
  | octets count => do
      let (chunk, r) ← r.read count
      return (.octets chunk, r)
  | number width => do
      let (value, r) ← r.readNat width
      return (.number value, r)

end Call

def attempt (r : Reader) (call : Call) : Except DecodeError Value × Reader :=
  match call.on r with
  | .ok (value, r') => (.ok value, r')
  | .error e => (.error e, r)

def run (r : Reader) : List Call → List (Except DecodeError Value) × Reader
  | [] => ([], r)
  | call :: calls =>
      let (answer, r') := r.attempt call
      let (answers, last) := r'.run calls
      (answer :: answers, last)

theorem run_cons (r : Reader) (call : Call) (calls : List Call) :
    r.run (call :: calls) =
      ((r.attempt call).1 :: ((r.attempt call).2.run calls).1, ((r.attempt call).2.run calls).2) :=
  rfl

theorem run_append (r : Reader) (calls calls' : List Call) :
    r.run (calls ++ calls') =
      ((r.run calls).1 ++ ((r.run calls).2.run calls').1, ((r.run calls).2.run calls').2) := by
  induction calls generalizing r with
  | nil => rfl
  | cons call calls ih =>
      rw [List.cons_append, run_cons, ih]
      rfl

/-- The chunks that calls with these answers took, one for each call that succeeded. -/
inductive Took : List Call → List (Except DecodeError Value) → List Bytes → Prop
  | nil : Took [] [] []
  | ok {calls answers chunks} (call : Call) (chunk : Bytes) (hw : chunk.length = call.width)
      (h : Took calls answers chunks) : Took (call :: calls) (.ok (call.value chunk) :: answers) (chunk :: chunks)
  | error {calls answers chunks} (call : Call) (e : DecodeError) (h : Took calls answers chunks) :
      Took (call :: calls) (.error e :: answers) chunks

variable (data : Bytes) (message : String)

theorem on_eq (offset : Nat) (call : Call) :
    call.on ⟨data, offset, message⟩ =
      if data.length < offset + call.width then .error (.truncated message (offset + call.width) data.length)
      else .ok (call.value (data.field offset call.width), ⟨data, offset + call.width, message⟩) := by
  cases call with
  | octets count => exact read_bind data offset message count _
  | number width => exact readNat_bind data offset message width _

theorem attempt_of_le {offset : Nat} {call : Call} (h : offset + call.width ≤ data.length) :
    attempt ⟨data, offset, message⟩ call =
      (.ok (call.value (data.field offset call.width)), ⟨data, offset + call.width, message⟩) := by
  rw [attempt, on_eq, if_neg (Nat.not_lt.mpr h)]

theorem attempt_of_lt {offset : Nat} {call : Call} (h : data.length < offset + call.width) :
    attempt ⟨data, offset, message⟩ call =
      (.error (.truncated message (offset + call.width) data.length), ⟨data, offset, message⟩) := by
  rw [attempt, on_eq, if_pos h]

theorem exists_run {offset : Nat} (h : offset ≤ data.length) (calls : List Call) :
    ∃ answers chunks last, run ⟨data, offset, message⟩ calls = (answers, ⟨data, last, message⟩) ∧
      last ≤ data.length ∧ Took calls answers chunks ∧ data.take offset ++ chunks.flatten = data.take last := by
  induction calls generalizing offset with
  | nil => exact ⟨[], [], offset, rfl, h, .nil, List.append_nil _⟩
  | cons call calls ih =>
      -- a call that fails leaves the offset, so the rest of the run starts where it stood
      by_cases hc : offset + call.width ≤ data.length
      · obtain ⟨answers, chunks, last, hrun, hlast, htook, hchunks⟩ := ih hc
        refine ⟨_, data.field offset call.width :: chunks, last, ?_, hlast,
          .ok call _ (data.field_length offset call.width hc) htook, ?_⟩
        · rw [run_cons, attempt_of_le data message hc, hrun]
        · rw [List.flatten_cons, ← List.append_assoc, Bytes.field, ← List.take_add, hchunks]
      · obtain ⟨answers, chunks, last, hrun, hlast, htook, hchunks⟩ := ih h
        refine ⟨_, chunks, last, ?_, hlast,
          .error call (.truncated message (offset + call.width) data.length) htook, hchunks⟩
        rw [run_cons, attempt_of_lt data message (Nat.lt_of_not_le hc), hrun]

example : (start [1, 2, 3] "message").run [.number 2, .octets 2, .octets 1] =
    ([.ok (.number 0x102), .error (.truncated "message" 4 3), .ok (.octets [3])], ⟨[1, 2, 3], 3, "message"⟩) :=
  rfl

end PakeRegistration.Message.Reader
