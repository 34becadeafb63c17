import PakeRegistration.Bytes.FixedWidth
import PakeRegistration.PrimeGroup
import PakeRegistration.RandomSource

namespace PakeRegistration.Oprf

def baseMode : UInt8 := 0

def suiteIdentifier : String := "ristretto255-SHA512"

def context : Bytes :=
  Bytes.ascii "OPRFV1-" ++ [baseMode] ++ Bytes.ascii "-" ++ Bytes.ascii suiteIdentifier

def hashToGroupTag : Bytes := Bytes.ascii "HashToGroup-" ++ context

def deriveKeyPairTag : Bytes := Bytes.ascii "DeriveKeyPair" ++ context

def finalizeLabel : Bytes := Bytes.ascii "Finalize"

def maxAttempts : Nat := 8

def hashToGroup (G : PrimeGroup) (message : Bytes) : Except RangeError Bytes :=
  G.hash message hashToGroupTag

/-- A scalar from one call of the source; it may be zero. -/
def randomScalar (source : RandomSource) (call : Nat) : Run Bytes := do
  let uniform ← source.draw call Scalar.uniformSize
  Scalar.reduce uniform

structure Blinded where
  blind : Bytes
  element : Bytes
deriving DecidableEq, Repr

/-- Attempts with one call of the source each, until a scalar and its multiple of the input can be used. -/
def attempts (G : PrimeGroup) (source : RandomSource) (input : Bytes) (attempt : Nat) :
    (remaining : Nat) → Run (Option Blinded)
  | 0 => return none
  | remaining + 1 => do
      let blind ← randomScalar source attempt
      if blind = Scalar.zero ∨ input = PrimeGroup.identity then
        Run.note (.unusableBlind attempt)
        attempts G source input (attempt + 1) remaining
      else
        match G.multiply blind input with
        | .ok element => return some ⟨blind, element⟩
        | .error _ =>
            Run.note (.rejectedBlind attempt)
            attempts G source input (attempt + 1) remaining

def blind (G : PrimeGroup) (source : RandomSource) (password : Bytes) (limit : Int) : Run Blinded := do
  let input ← hashToGroup G password
  match ← attempts G source input 1 limit.toNat with
  | some blinded => return blinded
  | none => Run.fail (.protocol (.blindExhausted limit))

/-- What the output is the hash of: the password and the unblinded element behind their lengths, and a label. -/
def transcript (password element : Bytes) : Except RangeError Bytes := do
  let passwordLength ← FixedWidth.encode password.length 2
  let elementLength ← FixedWidth.encode element.length 2
  return passwordLength ++ password ++ elementLength ++ element ++ finalizeLabel

def finalize (G : PrimeGroup) (password blind evaluated : Bytes) : Except Error Bytes := do
  let inverse ← Scalar.invert blind
  let unblinded ← G.multiply inverse evaluated
  return Sha512.hash (← transcript password unblinded)

end PakeRegistration.Oprf
