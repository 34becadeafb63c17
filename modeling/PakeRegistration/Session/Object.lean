import PakeRegistration.ClientState
import PakeRegistration.Message.Registration

namespace PakeRegistration.Session

inductive Object
  | request (m : RegistrationRequest)
  | response (m : RegistrationResponse)
  | upload (m : RegistrationUpload)
  | state (s : ClientState)
deriving DecidableEq, Repr

namespace Object

def kind : Object → ObjectKind
  | .request _ => .request
  | .response _ => .response
  | .upload _ => .upload
  | .state _ => .state

def encode : Object → Except Error Bytes
  | .request m => Wire.encode m
  | .response m => Wire.encode m
  | .upload m => Wire.encode m
  | .state s => Wire.encode s

def toText : Object → Except Error Text
  | .request m => Wire.toText m
  | .response m => Wire.toText m
  | .upload m => Wire.toText m
  | .state s => Wire.toText s

def decode (G : PrimeGroup) (kind : ObjectKind) (data : Bytes) : Except DecodeError Object :=
  match kind with
  | .request => .request <$> Wire.decode G data
  | .response => .response <$> Wire.decode G data
  | .upload => .upload <$> Wire.decode G data
  | .state => .state <$> Wire.decode G data

def ofText (G : PrimeGroup) (kind : ObjectKind) (v : Json) : Except DecodeError Object :=
  match kind with
  | .request => .request <$> Wire.ofText G v
  | .response => .response <$> Wire.ofText G v
  | .upload => .upload <$> Wire.ofText G v
  | .state => .state <$> Wire.ofText G v

def build? (kind : ObjectKind) (value? : String → Option Bytes) : Option Object := do
  match kind with
  | .request => return .request ⟨← value? "blinded_element"⟩
  | .response => return .response ⟨← value? "evaluated_element", ← value? "server_public_key"⟩
  | .upload => return .upload ⟨← value? "envelope", ← value? "client_public_key"⟩
  | .state => return .state { blind := ← value? "blind", password := ← value? "password" }

def foreignField (kind : ObjectKind) (name : Text) : ObjectError :=
  if name = Text.ofString ObjectKind.ownName then .ownName kind else .unexpectedField kind name

/-- The object with these fields. The first field that the kind has not is refused before one that is missing, and
of several of one name the last counts. -/
def ofFields (kind : ObjectKind) (fields : List (Text × Bytes)) : Except ObjectError Object :=
  let value? (name : String) : Option Bytes := fields.reverse.lookup (Text.ofString name)
  match fields.find? fun (name, _) => name ∉ kind.fields.map Text.ofString, build? kind value? with
  | some (name, _), _ => .error (foreignField kind name)
  | none, some o => .ok o
  | none, none => .error (.missingFields kind (kind.fields.filter fun name => (value? name).isNone))

def lacks {α : Type} (o : Object) (member : String) : Except ObjectError α :=
  .error (.lacks o.kind member)

def listing (kind : ObjectKind) (values : List Bytes) : Text :=
  let field (name : String) (octets : Bytes) : Text :=
    Text.ofString name ++ Text.ofString "=" ++ Text.quotedOctets octets
  Text.ofString kind.name ++ Text.ofString "(" ++
    (Text.ofString ", ").intercalate (List.zipWith field kind.fields values) ++ Text.ofString ")"

/-- What may be shown of an object: every field of a message, and none of a state. -/
def summary : Object → Text
  | .request m => listing .request [m.blindedElement]
  | .response m => listing .response [m.evaluatedElement, m.serverPublicKey]
  | .upload m => listing .upload [m.envelope, m.clientPublicKey]
  | .state s => s.summary

end Object

end PakeRegistration.Session
