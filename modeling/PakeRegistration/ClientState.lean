import PakeRegistration.Message.Wire

/-!
The state that a client keeps between the two halves of a registration. It is used once: taking the password out
marks it, and a marked state has no octets any more.
-/

namespace PakeRegistration

structure ClientState where
  blind : Bytes
  password : Bytes
  consumed : Bool := false
deriving DecidableEq, Repr

namespace ClientState

def version : Nat := 1

def maxPassword : Nat := 65535

/-- A version octet, the blind, the length of the password in four octets, and the password. -/
def encode (s : ClientState) : Except Error Bytes :=
  if s.consumed then .error (.protocol .stateConsumed)
  else if s.password.length < Bytes.capacity 4 then
    .ok ([UInt8.ofNat version] ++ s.blind ++ Bytes.ofNatBE 4 s.password.length ++ s.password)
  else .error (.range (.packed 4))

def decode (data : Bytes) : Except DecodeError ClientState := do
  let r := Message.Reader.start data "client registration state"
  let (found, r) ← r.readNat 1
  if found ≠ version then throw (.stateVersion found)
  let (blind, r) ← r.read Scalar.size
  let (length, r) ← r.readNat 4
  if maxPassword < length then throw (.passwordLength length)
  let (password, r) ← r.read length
  r.finish
  return { blind := ← Scalar.validate blind "blinding scalar", password := password }

instance : Wire ClientState := ⟨encode, fun _ => decode⟩

def consume (s : ClientState) : Except ProtocolError (Bytes × ClientState) :=
  if s.consumed then .error .stateConsumed else .ok (s.password, { s with consumed := true })

def wipe (s : ClientState) : ClientState :=
  { s with blind := [], password := [] }

def summary (s : ClientState) : String :=
  if s.consumed then "ClientRegistrationState(consumed=True)" else "ClientRegistrationState(consumed=False)"

end ClientState

end PakeRegistration
