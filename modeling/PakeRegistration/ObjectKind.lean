namespace PakeRegistration

inductive ObjectKind
  | request
  | response
  | upload
  | state
deriving DecidableEq, Repr

namespace ObjectKind

def name : ObjectKind → String
  | request => "RegistrationRequest"
  | response => "RegistrationResponse"
  | upload => "RegistrationUpload"
  | state => "ClientRegistrationState"

def fields : ObjectKind → List String
  | request => ["blinded_element"]
  | response => ["evaluated_element", "server_public_key"]
  | upload => ["envelope", "client_public_key"]
  | state => ["blind", "password"]

/-- What an object that is being made is called; none of its fields can have this name. -/
def ownName : String := "self"

end ObjectKind

end PakeRegistration
