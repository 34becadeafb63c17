import PakeRegistration.Text.Printable

namespace PakeRegistration.Text

def singleQuote : CodePoint := ⟨0x27, by decide⟩

def doubleQuote : CodePoint := ⟨0x22, by decide⟩

def quoteMark (t : Text) : CodePoint :=
  if singleQuote ∈ t ∧ doubleQuote ∉ t then doubleQuote else singleQuote

def numbered (c : CodePoint) : Text :=
  if c.val < 0x100 then ofString "\\x" ++ [c.val / 16, c.val % 16].map CodePoint.hexDigit
  else if c.val < 0x10000 then ofString "\\u" ++ fourDigits c.val
  else ofString "\\U" ++ fourDigits (c.val / 0x10000) ++ fourDigits (c.val % 0x10000)

def escaped (isPrinted : CodePoint → Bool) (mark c : CodePoint) : Text :=
  if c = mark ∨ c.val = 0x5C then ofString "\\" ++ [c]
  else if c.val = 0x09 then ofString "\\t"
  else if c.val = 0x0A then ofString "\\n"
  else if c.val = 0x0D then ofString "\\r"
  else if isPrinted c then [c]
  else numbered c

def quotedBy (isPrinted : CodePoint → Bool) (t : Text) : Text :=
  let mark := quoteMark t
  mark :: t.flatMap (escaped isPrinted mark) ++ [mark]

def quoted (t : Text) : Text := quotedBy CodePoint.isPrintable t

/-- Octets in quotes behind a letter of their own, those of printed ASCII characters as the characters. -/
def quotedOctets (octets : Bytes) : Text :=
  let isPrinted (c : CodePoint) : Bool := 0x20 ≤ c.val ∧ c.val ≤ 0x7E
  ofString "b" ++ quotedBy isPrinted (octets.map CodePoint.ofOctet)

end PakeRegistration.Text
