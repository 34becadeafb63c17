import PakeRegistration.Json

namespace PakeRegistration.Json.Printer

def unit (n : Nat) : Text :=
  Text.ofString "\\u" ++ Text.fourDigits n

/-- A code point as it stands in a string; above the sixteen-bit range as a pair of surrogate units. -/
def character (c : CodePoint) : Text :=
  if c.val = 0x22 then Text.ofString "\\\""
  else if c.val = 0x5C then Text.ofString "\\\\"
  else if c.val = 0x0A then Text.ofString "\\n"
  else if c.val = 0x0D then Text.ofString "\\r"
  else if c.val = 0x09 then Text.ofString "\\t"
  else if c.val = 0x0C then Text.ofString "\\f"
  else if c.val = 0x08 then Text.ofString "\\b"
  else if 0x20 ≤ c.val ∧ c.val ≤ 0x7E then [c]
  else if c.val < 0x10000 then unit c.val
  else unit (0xD800 + (c.val - 0x10000) / 1024) ++ unit (0xDC00 + (c.val - 0x10000) % 1024)

def quoted (t : Text) : Text :=
  Text.ofString "\"" ++ t.flatMap character ++ Text.ofString "\""

mutual

def render : Json → Text
  | .null => Text.ofString "null"
  | .bool true => Text.ofString "true"
  | .bool false => Text.ofString "false"
  | .int n => Text.ofString (toString n)
  | .decimal literal => literal
  | .string t => quoted t
  | .array items => Text.ofString "[" ++ renderItems items ++ Text.ofString "]"
  | .object fields => Text.ofString "\x7b" ++ renderFields fields ++ Text.ofString "\x7d"

def renderItems : List Json → Text
  | [] => []
  | [v] => render v
  | v :: rest => render v ++ Text.ofString ", " ++ renderItems rest

def renderFields : List (Text × Json) → Text
  | [] => []
  | [(name, v)] => quoted name ++ Text.ofString ": " ++ render v
  | (name, v) :: rest => quoted name ++ Text.ofString ": " ++ render v ++ Text.ofString ", " ++ renderFields rest

end

end PakeRegistration.Json.Printer
