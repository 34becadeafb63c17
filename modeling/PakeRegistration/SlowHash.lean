import PakeRegistration.Error
import PakeRegistration.Hash.Argon2

namespace PakeRegistration.SlowHash

def inputSize : Nat := 64

def saltSize : Nat := 8

def salt : Bytes := Bytes.zeros saltSize

/-- The stretched form of a digest; a wrong length is reported before any parameter. -/
def hash (p : Argon2.Parameters) (input : Bytes) : Except SlowHashError Bytes :=
  if input.length = inputSize then (Argon2.hash p input salt).mapError .parameters
  else .error (.inputLength input.length)

end PakeRegistration.SlowHash
