import PakeRegistration.Text

/-!
JSON values. Integers are exact and of any size; a number with a fraction or an exponent keeps its literal.
An object keeps every field it was written with, and a look-up finds the last of one name.
-/

namespace PakeRegistration

inductive Json
  | null
  | bool (b : Bool)
  | int (n : Int)
  | decimal (literal : Text)
  | string (t : Text)
  | array (items : List Json)
  | object (fields : List (Text × Json))

namespace Json

inductive Kind
  | null
  | bool
  | int
  | decimal
  | string
  | array
  | object
deriving DecidableEq, Repr

def Kind.name : Kind → String
  | null => "NoneType"
  | bool => "bool"
  | int => "int"
  | decimal => "float"
  | string => "str"
  | array => "list"
  | object => "dict"

def kind : Json → Kind
  | .null => .null
  | .bool _ => .bool
  | .int _ => .int
  | .decimal _ => .decimal
  | .string _ => .string
  | .array _ => .array
  | .object _ => .object

def field? (name : Text) (fields : List (Text × Json)) : Option Json :=
  fields.reverse.lookup name

end Json

end PakeRegistration
