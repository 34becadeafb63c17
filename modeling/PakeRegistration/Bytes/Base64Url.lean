import PakeRegistration.Json

namespace PakeRegistration.Base64Url

inductive Fault
  | notText (kind : Json.Kind)
  | foreignCharacter
  | length (count : Nat)
deriving DecidableEq, Repr

def Fault.message : Fault → String
  | notText kind => s!"Expected str, got {kind.name}"
  | foreignCharacter => "Base64url string contains non-Base64URL characters"
  | length count => s!"Invalid base64url length: {count}"

def digit (n : Nat) : CodePoint :=
  CodePoint.ofChar <|
    if n < 26 then Char.ofNat (65 + n)
    else if n < 52 then Char.ofNat (71 + n)
    else if n < 62 then Char.ofNat (n - 4)
    else if n = 62 then '-'
    else '_'

def digitValue? (c : CodePoint) : Option Nat :=
  if 65 ≤ c.val ∧ c.val ≤ 90 then some (c.val - 65)
  else if 97 ≤ c.val ∧ c.val ≤ 122 then some (c.val - 71)
  else if 48 ≤ c.val ∧ c.val ≤ 57 then some (c.val + 4)
  else if c.val = 45 then some 62
  else if c.val = 95 then some 63
  else none

/-- The six-bit numbers of some octets, most significant bits first, the last one filled up with zero bits. -/
def sextets : Bytes → List Nat
  | a :: b :: c :: rest =>
      a.toNat / 4 :: (a.toNat % 4 * 16 + b.toNat / 16) :: (b.toNat % 16 * 4 + c.toNat / 64) :: c.toNat % 64 ::
        sextets rest
  | [a, b] => [a.toNat / 4, a.toNat % 4 * 16 + b.toNat / 16, b.toNat % 16 * 4]
  | [a] => [a.toNat / 4, a.toNat % 4 * 16]
  | [] => []

def octets : List Nat → Bytes
  | a :: b :: c :: d :: rest =>
      UInt8.ofNat (a * 4 + b / 16) :: UInt8.ofNat (b % 16 * 16 + c / 4) :: UInt8.ofNat (c % 4 * 64 + d) ::
        octets rest
  | [a, b, c] => [UInt8.ofNat (a * 4 + b / 16), UInt8.ofNat (b % 16 * 16 + c / 4)]
  | [a, b] => [UInt8.ofNat (a * 4 + b / 16)]
  | _ => []

def encode (bytes : Bytes) : Text :=
  (sextets bytes).map digit

def decode (t : Text) : Except Fault Bytes :=
  match t.mapM digitValue? with
  | none => .error .foreignCharacter
  | some digits => if t.length % 4 = 1 then .error (.length t.length) else .ok (octets digits)

def decodeJson : Json → Except Fault Bytes
  | .string t => decode t
  | v => .error (.notText v.kind)

end PakeRegistration.Base64Url
