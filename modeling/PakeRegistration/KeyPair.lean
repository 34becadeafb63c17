import PakeRegistration.Oprf

namespace PakeRegistration

structure KeyPair where
  privateKey : Bytes
  publicKey : Bytes
deriving DecidableEq, Repr

namespace KeyPair

def seedSize : Nat := 32

def counters : Nat := 256

def defaultInfo : Bytes := Bytes.ascii "OPAQUE-DeriveDiffieHellmanKeyPair"

def input (seed info : Bytes) : Except RangeError Bytes := do
  return seed ++ (← FixedWidth.encode info.length 2) ++ info

def candidateInput (input : Bytes) (counter : Nat) : Except RangeError Bytes := do
  return input ++ (← FixedWidth.encode counter 1)

def firstScalar (input : Bytes) (counter : Nat) : (remaining : Nat) → Run Bytes
  | 0 => Run.fail (.protocol .keyPairExhausted)
  | remaining + 1 => do
      let candidate ← candidateInput input counter
      let scalar ← Scalar.hash candidate Oprf.deriveKeyPairTag
      if scalar = Scalar.zero then
        Run.note (.zeroDerivation counter)
        firstScalar input (counter + 1) remaining
      else return scalar

def derive (G : PrimeGroup) (seed info : Bytes) : Run KeyPair := do
  let input ← input seed info
  let privateKey ← firstScalar input 0 counters
  let publicKey ← G.multiplyBase privateKey
  return ⟨privateKey, publicKey⟩

end KeyPair

end PakeRegistration
