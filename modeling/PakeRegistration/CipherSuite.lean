import PakeRegistration.Oprf
import PakeRegistration.Ristretto255
import PakeRegistration.SlowHash

namespace PakeRegistration

structure CipherSuite where
  group : PrimeGroup
  slowHash : Argon2.Parameters

namespace CipherSuite

def groupName : String := "ristretto255"

def keyExchangeName : String := "3DH"

def hashName : String := "SHA-512"

def standard : CipherSuite := ⟨Ristretto255.group, {}⟩

def ofNames (group keyExchange hash : Text) (slowHash : Argon2.Parameters) : Except SuiteError CipherSuite :=
  if group ≠ groupName then .error (.group group)
  else if keyExchange ≠ keyExchangeName then .error (.keyExchange keyExchange)
  else if hash ≠ hashName then .error (.hash hash)
  else .ok ⟨Ristretto255.group, slowHash⟩

end CipherSuite

end PakeRegistration
