import PakeRegistration.Bytes
import PakeRegistration.Hash.Hkdf
import PakeRegistration.KeyPair

namespace PakeRegistration.Envelope

def nonceSize : Nat := 32

def size : Nat := nonceSize + Sha512.digestSize

def nonceLabel : Bytes := Bytes.ascii "EnvelopeNonce"

def authKeyLabel : Bytes := Bytes.ascii "AuthKey"

def exportKeyLabel : Bytes := Bytes.ascii "ExportKey"

def privateKeyLabel : Bytes := Bytes.ascii "PrivateKey"

structure Keys where
  nonce : Bytes
  authKey : Bytes
  exportKey : Bytes
  seed : Bytes
deriving DecidableEq, Repr

def randomizePassword (output stretched : Bytes) : Bytes :=
  Hkdf.extract [] (output ++ stretched)

namespace Keys

def derive (randomizedPassword : Bytes) : Keys :=
  let nonce := Hkdf.stream randomizedPassword nonceLabel nonceSize
  { nonce := nonce
    authKey := Hkdf.stream randomizedPassword (nonce ++ authKeyLabel) Sha512.digestSize
    exportKey := Hkdf.stream randomizedPassword (nonce ++ exportKeyLabel) Sha512.digestSize
    seed := Hkdf.stream randomizedPassword (nonce ++ privateKeyLabel) KeyPair.seedSize }

end Keys

def transcript (nonce serverPublicKey clientPublicKey : Bytes) : Bytes :=
  nonce ++ serverPublicKey ++ clientPublicKey

/-- The nonce, and the tag over the nonce and both public keys. -/
def create (keys : Keys) (serverPublicKey clientPublicKey : Bytes) : Bytes :=
  keys.nonce ++ Hmac.mac keys.authKey (transcript keys.nonce serverPublicKey clientPublicKey)

theorem create_derive_length (randomizedPassword serverPublicKey clientPublicKey : Bytes) :
    (create (Keys.derive randomizedPassword) serverPublicKey clientPublicKey).length = size := by
  simp [create, Keys.derive, size]

end PakeRegistration.Envelope
