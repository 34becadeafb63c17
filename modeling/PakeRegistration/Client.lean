import PakeRegistration.CipherSuite
import PakeRegistration.ClientState
import PakeRegistration.Message.Registration

/-!
A client's registration in two calls. Starting blinds the password and is the only use of randomness; finishing
takes the state out of use whatever comes of it, and makes the upload and the export key from the server's answer.
-/

namespace PakeRegistration.Client

structure Started where
  request : RegistrationRequest
  state : ClientState
deriving DecidableEq, Repr

structure Finished where
  upload : RegistrationUpload
  exportKey : Bytes
deriving DecidableEq, Repr

def start (suite : CipherSuite) (source : RandomSource) (password : Bytes) : Run Started := do
  if ClientState.maxPassword < password.length then
    Run.fail (.protocol (.passwordTooLong password.length))
  else
    let blinded ← Oprf.blind suite.group source password Oprf.maxAttempts
    Run.note (.started Oprf.suiteIdentifier)
    return ⟨⟨blinded.element⟩, { blind := blinded.blind, password := password }⟩

def complete (suite : CipherSuite) (output serverPublicKey : Bytes) : Run Finished := do
  let stretched ← SlowHash.hash suite.slowHash output
  let keys := Envelope.Keys.derive (Envelope.randomizePassword output stretched)
  let keyPair ← KeyPair.derive suite.group keys.seed KeyPair.defaultInfo
  let envelope := Envelope.create keys serverPublicKey keyPair.publicKey
  Run.note (.finished envelope.length)
  return ⟨⟨envelope, keyPair.publicKey⟩, keys.exportKey⟩

/-- The one use of a state for some work on its password and its blind: the state afterwards, out of use whatever
comes of the work, together with what the work did. -/
def useOnce {α : Type} (state : ClientState) (work : (password blind : Bytes) → Run α) : ClientState × Run α :=
  match state.consume with
  | .error e => (state, Run.fail (.protocol e))
  | .ok (password, consumed) => (consumed.wipe, work password state.blind)

def finish (suite : CipherSuite) (state : ClientState) (response : RegistrationResponse) :
    ClientState × Run Finished :=
  useOnce state fun password blind => do
    let output ← Oprf.finalize suite.group password blind response.evaluatedElement
    complete suite output response.serverPublicKey

end PakeRegistration.Client
