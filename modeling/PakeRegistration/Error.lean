import PakeRegistration.Bytes.Base64Url
import PakeRegistration.Hash.Argon2.Parameters
import PakeRegistration.Json.Reader
import PakeRegistration.ObjectKind
import PakeRegistration.Text.Quoted

/-!
What can go wrong, as causes, one family for each part of the engine and one sum over the families. Every
cause has a category, a place in the tree of categories, and one message.
-/

namespace PakeRegistration

inductive Category
  | engine
  | randomSource
  | slowHash
  | protocol
  | stateConsumed
  | decode
  | truncated
  | trailing
  | groupElement
  | scalar
  | version
  | envelopeSize
  | value
  | type
  | key
  | member
  | overflow
  | recursion
  | unencodable
  | json
  | packing
deriving DecidableEq, Repr

namespace Category

def name : Category → String
  | engine => "OpaqueError"
  | randomSource => "RandomSourceError"
  | slowHash => "SlowHashError"
  | protocol => "ProtocolError"
  | stateConsumed => "StateConsumedError"
  | decode => "DecodeError"
  | truncated => "TruncatedMessageError"
  | trailing => "TrailingBytesError"
  | groupElement => "InvalidGroupElementError"
  | scalar => "InvalidScalarError"
  | version => "UnsupportedVersionError"
  | envelopeSize => "EnvelopeSizeError"
  | value => "ValueError"
  | type => "TypeError"
  | key => "KeyError"
  | member => "AttributeError"
  | overflow => "OverflowError"
  | recursion => "RecursionError"
  | unencodable => "UnicodeEncodeError"
  | json => "JSONDecodeError"
  | packing => "error"

/-- The categories above a category of the engine's own tree, nearest first. -/
def ancestors : Category → List Category
  | randomSource | slowHash | protocol | decode => [engine]
  | stateConsumed => [protocol, engine]
  | truncated | trailing | groupElement | scalar | version | envelopeSize => [decode, engine]
  | _ => []

def engineTree : List Category :=
  [engine, randomSource, slowHash, protocol, stateConsumed, decode, truncated, trailing, groupElement, scalar,
    version, envelopeSize]

end Category

/-- An error as callers see it: its category, its text, and the counts that two categories carry. -/
inductive Report
  | plain (category : Category) (text : Text)
  | truncated (text : Text) (expected actual : Int)
  | trailing (text : Text) (extra : Int)
deriving DecidableEq, Repr

namespace Report

def category : Report → Category
  | plain category _ => category
  | truncated .. => .truncated
  | trailing .. => .trailing

def message : Report → Text
  | plain _ text => text
  | truncated text expected actual => text ++ s!": expected {expected} bytes, got {actual}"
  | trailing text extra => text ++ s!": {extra} trailing bytes"

end Report

inductive RangeError
  | integer (value width : Int)
  | negativeWidth
  | expansion (length : Int)
  | tag (length : Nat)
  | uniform
  | derivedKey
  | negativeLength
  | hugeLength
  | packed (width : Nat)
  | octetCount
  | digitCount
deriving DecidableEq, Repr

def RangeError.report : RangeError → Report
  | integer value width => .plain .value s!"Integer {value} does not fit in {width} bytes"
  | negativeWidth => .plain .value "negative shift count"
  | expansion length => .plain .value s!"Requested output length too large: {length}"
  | tag length => .plain .value s!"Domain separation tag too long: {length}"
  | uniform => .plain .value "Invalid parameter: must be 64 bytes"
  | derivedKey => .plain .value "Cannot derive keys larger than 16320 octets."
  | negativeLength => .plain .overflow "can't convert negative int to unsigned"
  | hugeLength => .plain .overflow "int too big to convert"
  | packed width =>
      let letter := if width = 2 then "H" else "I"
      .plain .packing s!"'{letter}' format requires 0 <= number <= {Bytes.capacity width - 1}"
  | octetCount => .plain .overflow "byte string is too large"
  | digitCount => .plain .overflow "too many digits in integer"

inductive RandomSourceError
  | unavailable (text : Text)
  | malformed (count : Int)
deriving DecidableEq, Repr

def RandomSourceError.report : RandomSourceError → Report
  | unavailable text => .plain .randomSource ("Secure random source unavailable: " ++ text)
  | malformed count => .plain .randomSource s!"Random source returned malformed output, expected {count} bytes"

inductive SlowHashError
  | inputLength (length : Nat)
  | parameters (fault : Argon2.Fault)
deriving DecidableEq, Repr

def SlowHashError.report : SlowHashError → Report
  | inputLength length => .plain .slowHash s!"Invalid slow hash input length: {length}, expected 64"
  | parameters fault => .plain .slowHash s!"Argon2 hashing failed: {fault.message}"

inductive ProtocolError
  | product
  | baseProduct
  | zeroInversion
  | blindExhausted (attempts : Int)
  | keyPairExhausted
  | passwordTooLong (length : Nat)
  | stateConsumed
deriving DecidableEq, Repr

def ProtocolError.report : ProtocolError → Report
  | product => .plain .protocol "Scalar multiplication produced an invalid element"
  | baseProduct => .plain .protocol "Base point multiplication produced an invalid element"
  | zeroInversion => .plain .protocol "Cannot invert a zero scalar"
  | blindExhausted attempts => .plain .protocol s!"Failed to blind password after {attempts} attempts"
  | keyPairExhausted => .plain .protocol "Failed to derive a key pair from seed"
  | passwordTooLong length => .plain .protocol s!"Password too long: {length} bytes, maximum 65535"
  | stateConsumed => .plain .stateConsumed "Client registration state has already been consumed"

/-- Why octets or a text are no message; a field or a message is named by the words that the report uses. -/
inductive DecodeError
  | truncated (message : String) (expected actual : Nat)
  | trailing (message : String) (extra : Nat)
  | elementLength (field : Text) (length : Nat)
  | identityElement (field : Text)
  | elementEncoding (field : Text)
  | scalarLength (field : Text) (length : Nat)
  | zeroScalar (field : Text)
  | unreducedScalar (field : Text)
  | stateVersion (version : Nat)
  | passwordLength (length : Nat)
  | envelopeSize (length : Nat)
  | text (fault : Base64Url.Fault)
deriving DecidableEq, Repr

def DecodeError.report : DecodeError → Report
  | truncated message expected actual => .truncated s!"Truncated {message}" expected actual
  | trailing message extra => .trailing s!"Over-long {message}" extra
  | elementLength field length => .plain .groupElement ("Invalid " ++ field ++ s!" length: {length}, expected 32")
  | identityElement field => .plain .groupElement ("Invalid " ++ field ++ ": identity element")
  | elementEncoding field => .plain .groupElement ("Invalid " ++ field ++ ": not a ristretto255 encoding")
  | scalarLength field length => .plain .scalar ("Invalid " ++ field ++ s!" length: {length}, expected 32")
  | zeroScalar field => .plain .scalar ("Invalid " ++ field ++ ": zero")
  | unreducedScalar field => .plain .scalar ("Invalid " ++ field ++ ": not reduced modulo the group order")
  | stateVersion version => .plain .version s!"Unsupported state version: {version}, expected 1"
  | passwordLength length => .plain .decode s!"Invalid password length: {length}, maximum 65535"
  | envelopeSize length => .plain .envelopeSize s!"Invalid envelope size: {length}, expected 96"
  | text fault => .plain .decode s!"Invalid base64url encoding: {fault.message}"

inductive SuiteError
  | group (name : Text)
  | keyExchange (name : Text)
  | hash (name : Text)
deriving DecidableEq, Repr

def SuiteError.report : SuiteError → Report
  | group name => .plain .value ("Unsupported group: " ++ name ++ ", expected ristretto255")
  | keyExchange name => .plain .value ("Unsupported key exchange: " ++ name ++ ", expected 3DH")
  | hash name => .plain .value ("Unsupported hash: " ++ name ++ ", expected SHA-512")

inductive ArgumentError
  | surrogates (run : Text.SurrogateRun)
  | negativeCount
  | countOverflow
  | octetRange
  | codePoint
  | notInteger (kind : Json.Kind)
  | notBytes (kind : Json.Kind)
  | text (fault : Base64Url.Fault)
  | json (fault : Json.Reader.ReadError)
  | noFields (kind : Json.Kind)
  | missingField (name : Text)
deriving DecidableEq, Repr

namespace ArgumentError

def surrogatesText (run : Text.SurrogateRun) : String :=
  let code := (Text.fourDigits run.first.val).toString
  let last := run.start + run.length - 1
  let place :=
    if run.length = 1 then s!"character '\\u{code}' in position {run.start}"
    else s!"characters in position {run.start}-{last}"
  s!"'utf-8' codec can't encode {place}: surrogates not allowed"

def noFieldsText : Json.Kind → String
  | .array => "list indices must be integers or slices, not str"
  | .string => "string indices must be integers, not 'str'"
  | kind => s!"'{kind.name}' object is not subscriptable"

def base64Category : Base64Url.Fault → Category
  | .notText _ => .type
  | .foreignCharacter | .length _ => .value

def report : ArgumentError → Report
  | surrogates run => .plain .unencodable (surrogatesText run)
  | negativeCount => .plain .value "negative count"
  | countOverflow => .plain .overflow "cannot fit 'int' into an index-sized integer"
  | octetRange => .plain .value "bytes must be in range(0, 256)"
  | codePoint => .plain .value "chr() arg not in range(0x110000)"
  | notInteger kind => .plain .type s!"'{kind.name}' object cannot be interpreted as an integer"
  | notBytes kind => .plain .type s!"cannot convert '{kind.name}' object to bytes"
  | text fault => .plain (base64Category fault) fault.message
  | json (.malformed fault place) =>
      .plain .json s!"{fault.text}: line {place.line} column {place.column} (char {place.offset})"
  | json (.tooDeep container) =>
      .plain .recursion <|
        s!"maximum recursion depth exceeded while decoding a JSON {container.name} from a unicode string"
  | json (.tooManyDigits count) =>
      let limit := Json.Reader.maxDigits
      .plain .value <|
        s!"Exceeds the limit ({limit} digits) for integer string conversion: value has {count} digits; " ++
          "use sys.set_int_max_str_digits() to increase the limit"
  | noFields kind => .plain .type (noFieldsText kind)
  | missingField name => .plain .key name.quoted

end ArgumentError

inductive ObjectError
  | unknown (name : Text)
  | lacks (kind : ObjectKind) (member : String)
  | unexpectedField (kind : ObjectKind) (name : Text)
  | ownName (kind : ObjectKind)
  | missingFields (kind : ObjectKind) (names : List String)
deriving DecidableEq, Repr

namespace ObjectError

/-- Names in single quotes, the last two with a word between them. -/
def enumeration : List String → String
  | [] => ""
  | [name] => s!"'{name}'"
  | [name, last] => s!"'{name}' and '{last}'"
  | name :: rest => s!"'{name}', " ++ enumeration rest

def report : ObjectError → Report
  | unknown name => .plain .key name.quoted
  | lacks kind member => .plain .member s!"'{kind.name}' object has no attribute '{member}'"
  | unexpectedField kind name =>
      .plain .type (s!"{kind.name}.__init__() got an unexpected keyword argument '" ++ name ++ "'")
  | ownName kind =>
      .plain .type s!"{kind.name}.__init__() got multiple values for argument '{ObjectKind.ownName}'"
  | missingFields kind names =>
      let plural := if names.length = 1 then "" else "s"
      .plain .type <|
        s!"{kind.name}.__init__() missing {names.length} required positional argument{plural}: " ++ enumeration names

end ObjectError

inductive Error
  | range (e : RangeError)
  | randomSource (e : RandomSourceError)
  | slowHash (e : SlowHashError)
  | protocol (e : ProtocolError)
  | decode (e : DecodeError)
  | suite (e : SuiteError)
  | argument (e : ArgumentError)
  | object (e : ObjectError)
deriving DecidableEq, Repr

namespace Error

def report : Error → Report
  | range e => e.report
  | randomSource e => e.report
  | slowHash e => e.report
  | protocol e => e.report
  | decode e => e.report
  | suite e => e.report
  | argument e => e.report
  | object e => e.report

def category (e : Error) : Category := e.report.category

def message (e : Error) : Text := e.report.message

end Error

instance : MonadLift (Except RangeError) (Except Error) := ⟨fun x => x.mapError .range⟩

instance : MonadLift (Except SlowHashError) (Except Error) := ⟨fun x => x.mapError .slowHash⟩

instance : MonadLift (Except ProtocolError) (Except Error) := ⟨fun x => x.mapError .protocol⟩

instance : MonadLift (Except DecodeError) (Except Error) := ⟨fun x => x.mapError .decode⟩

instance : MonadLift (Except ArgumentError) (Except Error) := ⟨fun x => x.mapError .argument⟩

instance : MonadLift (Except ObjectError) (Except Error) := ⟨fun x => x.mapError .object⟩

end PakeRegistration
