import PakeRegistration.Error

namespace PakeRegistration.Message

structure Reader where
  data : Bytes
  offset : Nat
  message : String
deriving DecidableEq, Repr

namespace Reader

def start (data : Bytes) (message : String) : Reader := ⟨data, 0, message⟩

def read (r : Reader) (count : Nat) : Except DecodeError (Bytes × Reader) :=
  let stop := r.offset + count
  if r.data.length < stop then .error (.truncated r.message stop r.data.length)
  else .ok ((r.data.drop r.offset).take count, { r with offset := stop })

def readNat (r : Reader) (width : Nat) : Except DecodeError (Nat × Reader) := do
  let (octets, r) ← r.read width
  return (Bytes.toNatBE octets, r)

def finish (r : Reader) : Except DecodeError Unit :=
  if r.offset < r.data.length then .error (.trailing r.message (r.data.length - r.offset)) else .ok ()

end Reader

end PakeRegistration.Message
