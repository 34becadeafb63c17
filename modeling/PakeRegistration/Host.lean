import PakeRegistration.Client

namespace PakeRegistration.Host

/-- A password as a host passes it on. A value that is a text stands for its UTF-8 octets, a number for as many
zero octets, an array for its items. -/
inductive Password
  | octets (octets : Bytes)
  | value (v : Json)

namespace Password

def itemOctet : Json → Except ArgumentError UInt8
  | .bool b => .ok (if b then 1 else 0)
  | .int n => if 0 ≤ n ∧ n < 256 then .ok (UInt8.ofNat n.toNat) else .error .octetRange
  | v => .error (.notInteger v.kind)

/-- A count of zero octets. One that no octet string or no password can have is refused before any octet is made. -/
def zeroOctets (count : Int) : Except Error Bytes :=
  if count < -0x8000000000000000 ∨ 0x8000000000000000 ≤ count then .error (.argument .countOverflow)
  else if count < 0 then .error (.argument .negativeCount)
  else if Bytes.maxLength < count then .error (.range .octetCount)
  else if ClientState.maxPassword < count then .error (.protocol (.passwordTooLong count.toNat))
  else .ok (Bytes.zeros count.toNat)

def toOctets : Password → Except Error Bytes
  | .octets bytes => .ok bytes
  | .value (.string t) => t.utf8.mapError fun run => .argument (.surrogates run)
  | .value (.int n) => zeroOctets n
  | .value (.bool b) => zeroOctets (if b then 1 else 0)
  | .value (.array items) => (items.mapM itemOctet).mapError .argument
  | .value (.object fields) =>
      if fields.isEmpty then .ok [] else .error (.argument (.notInteger .string))
  | .value v => .error (.argument (.notBytes v.kind))

end Password

structure StartHandle where
  result : Client.Started
  request : Bytes
  state : Bytes
deriving DecidableEq, Repr

structure FinishHandle where
  result : Client.Finished
  upload : Bytes
deriving DecidableEq, Repr

def start (suite : CipherSuite) (source : RandomSource) (password : Password) : Run StartHandle := do
  let octets ← password.toOctets
  let started ← Client.start suite source octets
  return ⟨started, started.request.encode, ← started.state.encode⟩

/-- A registration finished from the octets of the state and of the response, decoded in this order. -/
def finish (suite : CipherSuite) (state response : Bytes) : Run FinishHandle := do
  let state ← ClientState.decode state
  let response ← RegistrationResponse.decode suite.group response
  let finished ← (Client.finish suite state response).2
  return ⟨finished, ← finished.upload.encode⟩

end PakeRegistration.Host
