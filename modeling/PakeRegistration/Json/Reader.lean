import PakeRegistration.Json

/-!
Reading a JSON value from a text, and where reading stops when the text is none. The grammar is the standard
one with the three words for numbers out of range added. A written integer has at most 4300 digits, and arrays and
objects are nested no deeper than a limit.
-/

namespace PakeRegistration.Json.Reader

inductive Fault
  | value
  | fieldName
  | colon
  | comma
  | extraData
  | unterminatedString
  | controlCharacter
  | escape
  | unicodeEscape
  | byteOrderMark
deriving DecidableEq, Repr

def Fault.text : Fault → String
  | value => "Expecting value"
  | fieldName => "Expecting property name enclosed in double quotes"
  | colon => "Expecting ':' delimiter"
  | comma => "Expecting ',' delimiter"
  | extraData => "Extra data"
  | unterminatedString => "Unterminated string starting at"
  | controlCharacter => "Invalid control character at"
  | escape => "Invalid \\escape"
  | unicodeEscape => "Invalid \\uXXXX escape"
  | byteOrderMark => "Unexpected UTF-8 BOM (decode using utf-8-sig)"

/-- A place in a text: code points before it, its line and its column, the last two counted from one. -/
structure Position where
  offset : Nat
  line : Nat
  column : Nat
deriving DecidableEq, Repr

inductive Container
  | array
  | object
deriving DecidableEq, Repr

def Container.name : Container → String
  | array => "array"
  | object => "object"

inductive ReadError
  | malformed (fault : Fault) (position : Position)
  | tooManyDigits (count : Nat)
  | tooDeep (container : Container)
deriving DecidableEq, Repr

def maxDigits : Nat := 4300

def maxNesting : Nat := 984

/-- Why reading stopped; a malformed text together with what was left of it from the place of the fault on. -/
inductive Stop
  | malformed (fault : Fault) (rest : Text)
  | tooManyDigits (count : Nat)
  | tooDeep (container : Container)

def stop {α : Type} (fault : Fault) (rest : Text) : Except Stop α :=
  .error (.malformed fault rest)

def newline : CodePoint := CodePoint.ofChar '\n'

def position (whole rest : Text) : Position :=
  let before := whole.take (whole.length - rest.length)
  { offset := before.length
    line := 1 + before.count newline
    column := 1 + (before.reverse.takeWhile (· ≠ newline)).length }

def isBlank (c : CodePoint) : Bool :=
  c.val = 0x20 ∨ c.val = 0x09 ∨ c.val = 0x0A ∨ c.val = 0x0D

def skipBlanks (t : Text) : Text :=
  t.dropWhile isBlank

def isDigit (c : CodePoint) : Bool :=
  0x30 ≤ c.val ∧ c.val ≤ 0x39

def after? (c : Char) : Text → Option Text
  | [] => none
  | d :: rest => if d.val = c.toNat then some rest else none

def afterWord? (word : String) (t : Text) : Option Text :=
  word.toList.foldlM (fun rest c => after? c rest) t

def hexValue? (c : CodePoint) : Option Nat :=
  if 0x30 ≤ c.val ∧ c.val ≤ 0x39 then some (c.val - 0x30)
  else if 0x61 ≤ c.val ∧ c.val ≤ 0x66 then some (c.val - 0x57)
  else if 0x41 ≤ c.val ∧ c.val ≤ 0x46 then some (c.val - 0x37)
  else none

/-- Four hexadecimal digits with at least one code point after them. -/
def unit? : Text → Option (Fin 0x10000 × Text)
  | a :: b :: c :: d :: next :: rest => do
      let value := ((← hexValue? a) * 16 + (← hexValue? b)) * 256 + (← hexValue? c) * 16 + (← hexValue? d)
      return (Fin.ofNat 0x10000 value, next :: rest)
  | _ => none

def ofUnit (u : Fin 0x10000) : CodePoint :=
  ⟨u.val, by omega⟩

def ofPair (high low : Fin 0x10000) : CodePoint :=
  Fin.ofNat 0x110000 (0x10000 + (high.val - 0xD800) * 0x400 + (low.val - 0xDC00))

/-- What follows an escaped high surrogate, when it has the length of a second escape and more text after it. -/
def secondEscape? (t : Text) : Option Text :=
  if 6 < t.length then afterWord? "\\u" t else none

def unicodeEscape (letter : Text) : Except Stop (CodePoint × Text) :=
  match unit? letter.tail with
  | none => stop .unicodeEscape letter
  | some (high, rest) =>
      if 0xD800 ≤ high.val ∧ high.val ≤ 0xDBFF then
        match secondEscape? rest with
        | none => .ok (ofUnit high, rest)
        | some second =>
            match unit? second with
            | none => stop .unicodeEscape rest.tail
            | some (low, after) =>
                if 0xDC00 ≤ low.val ∧ low.val ≤ 0xDFFF then .ok (ofPair high low, after)
                else .ok (ofUnit high, rest)
      else .ok (ofUnit high, rest)

def simpleEscape? (c : CodePoint) : Option CodePoint :=
  if c.val = 0x22 ∨ c.val = 0x5C ∨ c.val = 0x2F then some c
  else if c.val = 0x62 then some 0x08
  else if c.val = 0x66 then some 0x0C
  else if c.val = 0x6E then some 0x0A
  else if c.val = 0x72 then some 0x0D
  else if c.val = 0x74 then some 0x09
  else none

/-- One code point of a string, or its closing quote as none; the text starts behind the opening quote. -/
def piece (opening : Text) : Text → Except Stop (Option CodePoint × Text)
  | [] => stop .unterminatedString opening
  | c :: rest =>
      if c.val = 0x22 then .ok (none, rest)
      else if c.val = 0x5C then
        match rest with
        | [] => stop .unterminatedString opening
        | e :: after =>
            if e.val = 0x75 then do
              let (d, after) ← unicodeEscape rest
              return (some d, after)
            else
              match simpleEscape? e with
              | some d => .ok (some d, after)
              | none => stop .escape (c :: rest)
      else if c.val < 0x20 then stop .controlCharacter (c :: rest)
      else .ok (some c, rest)

def stringBody (opening : Text) : (fuel : Nat) → (read : Text) → Text → Except Stop (Text × Text)
  | 0, _, _ => stop .unterminatedString opening
  | fuel + 1, read, rest => do
      match ← piece opening rest with
      | (none, rest) => return (read.reverse, rest)
      | (some c, rest) => stringBody opening fuel (c :: read) rest

def fraction (t : Text) : Text :=
  match t with
  | [] => []
  | c :: rest =>
      let digits := rest.takeWhile isDigit
      if c.val = 0x2E ∧ digits ≠ [] then c :: digits else []

def exponent (t : Text) : Text :=
  match t with
  | [] => []
  | c :: rest =>
      let sign := (rest.take 1).filter fun s => s.val = 0x2B ∨ s.val = 0x2D
      let digits := (rest.drop sign.length).takeWhile isDigit
      if (c.val = 0x65 ∨ c.val = 0x45) ∧ digits ≠ [] then c :: (sign ++ digits) else []

def decimalValue (digits : Text) : Nat :=
  digits.foldl (fun n c => 10 * n + (c.val - 0x30)) 0

def number (t : Text) : Except Stop (Json × Text) :=
  let (negative, body) := match after? '-' t with
    | some rest => (true, rest)
    | none => (false, t)
  let digits := match after? '0' body with
    | some _ => body.take 1
    | none => body.takeWhile isDigit
  if digits = [] then stop .value t
  else
    let rest := body.drop digits.length
    let frac := fraction rest
    let rest := rest.drop frac.length
    let exp := exponent rest
    let rest := rest.drop exp.length
    if frac = [] ∧ exp = [] then
      if maxDigits < digits.length then .error (.tooManyDigits digits.length)
      else
        let n : Int := decimalValue digits
        .ok (.int (if negative then -n else n), rest)
    else .ok (.decimal (t.take (t.length - rest.length)), rest)

def words : List (String × Json) :=
  [("null", .null), ("true", .bool true), ("false", .bool false),
    ("NaN", .decimal (Text.ofString "NaN")), ("Infinity", .decimal (Text.ofString "Infinity")),
    ("-Infinity", .decimal (Text.ofString "-Infinity"))]

def word? (t : Text) : Option (Json × Text) :=
  words.findSome? fun (word, v) => (afterWord? word t).map fun rest => (v, rest)

mutual

/-- A value that starts here, with so many more arrays and objects open at once; the fuel bounds the length. -/
def value : (fuel : Nat) → (nesting : Nat) → Text → Except Stop (Json × Text)
  | 0, _, t => stop .value t
  | fuel + 1, nesting, t =>
      match after? '"' t, after? '[' t, after? '\x7b' t, nesting with
      | some rest, _, _, _ => do
          let (s, rest) ← stringBody t fuel [] rest
          return (.string s, rest)
      | none, some _, _, 0 => .error (.tooDeep .array)
      | none, some rest, _, nesting + 1 =>
          let rest := skipBlanks rest
          match after? ']' rest with
          | some rest => .ok (.array [], rest)
          | none => items fuel nesting [] rest
      | none, none, some _, 0 => .error (.tooDeep .object)
      | none, none, some rest, nesting + 1 =>
          let rest := skipBlanks rest
          match after? '\x7d' rest with
          | some rest => .ok (.object [], rest)
          | none => fields fuel nesting [] rest
      | none, none, none, _ =>
          match word? t with
          | some found => .ok found
          | none => number t

def items : (fuel : Nat) → (nesting : Nat) → (read : List Json) → Text → Except Stop (Json × Text)
  | 0, _, _, t => stop .value t
  | fuel + 1, nesting, read, t => do
      let (v, rest) ← value fuel nesting t
      let rest := skipBlanks rest
      match after? ']' rest, after? ',' rest with
      | some rest, _ => return (.array (v :: read).reverse, rest)
      | none, some rest => items fuel nesting (v :: read) (skipBlanks rest)
      | none, none => stop .comma rest

def fields : (fuel : Nat) → (nesting : Nat) → (read : List (Text × Json)) → Text → Except Stop (Json × Text)
  | 0, _, _, t => stop .fieldName t
  | fuel + 1, nesting, read, t =>
      match after? '"' t with
      | none => stop .fieldName t
      | some rest => do
          let (name, rest) ← stringBody t fuel [] rest
          let rest := skipBlanks rest
          match after? ':' rest with
          | none => stop .colon rest
          | some rest =>
              let (v, rest) ← value fuel nesting (skipBlanks rest)
              let rest := skipBlanks rest
              match after? '\x7d' rest, after? ',' rest with
              | some rest, _ => return (.object ((name, v) :: read).reverse, rest)
              | none, some rest => fields fuel nesting ((name, v) :: read) (skipBlanks rest)
              | none, none => stop .comma rest

end

def document (nesting : Nat) (t : Text) : Except Stop Json := do
  if t.head? = some 0xFEFF then stop .byteOrderMark t
  let (v, rest) ← value (2 * t.length + 2) nesting (skipBlanks t)
  match skipBlanks rest with
  | [] => return v
  | rest => stop .extraData rest

def readWithin (nesting : Nat) (t : Text) : Except ReadError Json :=
  (document nesting t).mapError fun
    | .malformed fault rest => .malformed fault (position t rest)
    | .tooManyDigits count => .tooManyDigits count
    | .tooDeep container => .tooDeep container

def read (t : Text) : Except ReadError Json := readWithin maxNesting t

end PakeRegistration.Json.Reader
