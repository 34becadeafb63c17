import PakeRegistration.CipherSuite
import PakeRegistration.Message.Registration

namespace PakeRegistration.Server

structure Seeds where
  oprf : Bytes
  keyPair : Bytes
  info : Bytes
deriving DecidableEq, Repr

structure Keys where
  oprf : Bytes
  keyPair : KeyPair

def Seeds.keys (suite : CipherSuite) (seeds : Seeds) : Run Keys := do
  let oprf ← Scalar.hash seeds.oprf Oprf.deriveKeyPairTag
  let keyPair ← KeyPair.derive suite.group seeds.keyPair seeds.info
  return ⟨oprf, keyPair⟩

def Keys.respond (suite : CipherSuite) (keys : Keys) (blindedElement : Bytes) :
    Except ProtocolError RegistrationResponse := do
  return ⟨← suite.group.multiply keys.oprf blindedElement, keys.keyPair.publicKey⟩

end PakeRegistration.Server
