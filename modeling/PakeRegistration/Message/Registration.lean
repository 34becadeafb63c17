import PakeRegistration.Bytes.FixedWidth
import PakeRegistration.Envelope
import PakeRegistration.Message.Wire

namespace PakeRegistration

structure RegistrationRequest where
  blindedElement : Bytes
deriving DecidableEq, Repr

structure RegistrationResponse where
  evaluatedElement : Bytes
  serverPublicKey : Bytes
deriving DecidableEq, Repr

structure RegistrationUpload where
  envelope : Bytes
  clientPublicKey : Bytes
deriving DecidableEq, Repr

namespace RegistrationRequest

def encode (m : RegistrationRequest) : Bytes := m.blindedElement

def decode (G : PrimeGroup) (data : Bytes) : Except DecodeError RegistrationRequest := do
  let r := Message.Reader.start data "registration request"
  let (element, r) ← r.read PrimeGroup.elementSize
  r.finish
  return ⟨← G.validate element "blinded element"⟩

instance : Wire RegistrationRequest := ⟨fun m => .ok m.encode, decode⟩

end RegistrationRequest

namespace RegistrationResponse

def encode (m : RegistrationResponse) : Bytes := m.evaluatedElement ++ m.serverPublicKey

def decode (G : PrimeGroup) (data : Bytes) : Except DecodeError RegistrationResponse := do
  let r := Message.Reader.start data "registration response"
  let (evaluated, r) ← r.read PrimeGroup.elementSize
  let (key, r) ← r.read PrimeGroup.elementSize
  r.finish
  return ⟨← G.validate evaluated "evaluated element", ← G.validate key "server public key"⟩

instance : Wire RegistrationResponse := ⟨fun m => .ok m.encode, decode⟩

end RegistrationResponse

namespace RegistrationUpload

def encode (m : RegistrationUpload) : Except RangeError Bytes :=
  if m.envelope.length < Bytes.capacity 2 then
    .ok (Bytes.ofNatBE 2 m.envelope.length ++ m.envelope ++ m.clientPublicKey)
  else .error (.packed 2)

def decode (G : PrimeGroup) (data : Bytes) : Except DecodeError RegistrationUpload := do
  let r := Message.Reader.start data "registration upload"
  let (length, r) ← r.readNat 2
  if length ≠ Envelope.size then throw (.envelopeSize length)
  let (envelope, r) ← r.read length
  let (key, r) ← r.read PrimeGroup.elementSize
  r.finish
  return ⟨envelope, ← G.validate key "client public key"⟩

instance : Wire RegistrationUpload := ⟨fun m => (m.encode).mapError .range, decode⟩

end RegistrationUpload

end PakeRegistration
