import PakeRegistration.Message.Reader
import PakeRegistration.PrimeGroup

namespace PakeRegistration

class Wire (α : Type) where
  encode : α → Except Error Bytes
  decode : PrimeGroup → Bytes → Except DecodeError α

namespace Wire

variable {α : Type} [Wire α]

def toText (a : α) : Except Error Text := do
  return Base64Url.encode (← encode a)

def ofText (G : PrimeGroup) (v : Json) : Except DecodeError α := do
  let octets ← (Base64Url.decodeJson v).mapError .text
  decode G octets

end Wire

end PakeRegistration
