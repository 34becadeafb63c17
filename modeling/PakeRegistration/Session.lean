import PakeRegistration.Host
import PakeRegistration.Server
import PakeRegistration.Session.Object

/-!
Sessions: one client with a suite and the objects it has a name for. A step that fails binds no name, but a state
that it took out of use stays out of use.
-/

namespace PakeRegistration

namespace Session

/-- Where octets come from: they are given, or they are the encoding of a named object. -/
inductive Blob
  | octets (octets : Bytes)
  | ofObject (name : Text)

inductive Payload
  | octets (octets : Bytes)
  | text (v : Json)

inductive Step
  | suite (group keyExchange hash : Text) (slowHash : Argon2.Parameters)
  | start (name : Text) (password : Bytes) (source : RandomSource)
  | new (name : Text) (kind : ObjectKind) (fields : List (Text × Bytes))
  | load (name : Text) (kind : ObjectKind) (payload : Payload)
  | copy (source name : Text)
  | save (name : Text)
  | saveText (name : Text)
  | summary (name : Text)
  | consume (state : Text)
  | wipe (state : Text)
  | equal (a b : Text)
  | respond (name request : Text) (seeds : Server.Seeds)
  | finish (state response name : Text)
  | hostStart (name : Text) (password : Host.Password) (source : RandomSource)
  | hostFinish (state response : Blob)

inductive Answer
  | none
  | octets (octets : Bytes)
  | text (t : Text)
  | flag (b : Bool)
  | object (o : Object)
  | started (request : Bytes)
  | finished (result : Client.Finished) (upload : Bytes)
  | hostStarted (handle : Host.StartHandle)
  | hostFinished (handle : Host.FinishHandle)

end Session

structure Session where
  suite : CipherSuite
  objects : List (Text × Session.Object)

namespace Session

def start (suite : CipherSuite) : Session := ⟨suite, []⟩

def object? (s : Session) (name : Text) : Option Object :=
  s.objects.lookup name

def state? (s : Session) (name : Text) : Option ClientState :=
  match s.object? name with
  | some (.state state) => some state
  | _ => none

def bind (s : Session) (name : Text) (o : Object) : Session :=
  { s with objects := (name, o) :: s.objects.filter fun entry => entry.1 ≠ name }

def requestName (name : Text) : Text := name ++ Text.ofString ".request"

def bindStarted (s : Session) (name : Text) (started : Client.Started) : Session :=
  (s.bind name (.state started.state)).bind (requestName name) (.request started.request)

def object (s : Session) (name : Text) : Except ObjectError Object :=
  match s.object? name with
  | some o => .ok o
  | none => .error (.unknown name)

def state (s : Session) (name : Text) (use : String) : Except ObjectError ClientState := do
  match ← s.object name with
  | .state state => return state
  | o => o.lacks use

def blindedElement (s : Session) (name : Text) : Except ObjectError Bytes := do
  match ← s.object name with
  | .request m => return m.blindedElement
  | o => o.lacks "blinded_element"

def blob (s : Session) : Blob → Except Error Bytes
  | .octets octets => .ok octets
  | .ofObject name => do
      let o ← s.object name
      o.encode

/-- A state is equal to itself alone, and a message to every message of its type with the same fields. -/
def equal (s : Session) (a b : Text) : Except ObjectError Bool := do
  match ← s.object a, ← s.object b with
  | .state _, .state _ => return a = b
  | x, y => return x = y

def shown : Object → Answer
  | .state _ => .none
  | o => .object o

def commit {α : Type} (s : Session) (x : Run α) (after : α → Session × Answer) : Session × Run Answer :=
  match x.outcome with
  | .error e => (s, ⟨x.events, .error e⟩)
  | .ok a => ((after a).1, ⟨x.events, .ok (after a).2⟩)

def observe {α : Type} (s : Session) (x : Except Error α) (answer : α → Answer) : Session × Run Answer :=
  s.commit (Run.ofExcept x) fun a => (s, answer a)

def bindResult (s : Session) (name : Text) (x : Except Error Object) : Session × Run Answer :=
  s.commit (Run.ofExcept x) fun o => (s.bind name o, shown o)

/-- The second half of a registration. The state is out of use afterwards even when it fails, and when the object
that it gets for a response is none. -/
def finish (s : Session) (stateName responseName name : Text) : Session × Run Answer :=
  match s.object stateName, s.object responseName with
  | .ok (.state state), .ok response =>
      let (after, x) := match response with
        | .response m => Client.finish s.suite state m
        | o => Client.useOnce state fun _ _ => Run.ofExcept ((o.lacks "evaluated_element").mapError .object)
      let s := s.bind stateName (.state after)
      let x := do
        let finished ← x
        return (finished, ← finished.upload.encode)
      s.commit x fun (finished, upload) => (s.bind name (.upload finished.upload), .finished finished upload)
  | .ok o, .ok _ => (s, Run.ofExcept ((o.lacks "consume").mapError .object))
  | .error e, _ | _, .error e => (s, Run.fail (.object e))

def consume (s : Session) (name : Text) : Session × Run Answer :=
  let x : Except Error (Bytes × ClientState) := do
    let state ← s.state name "consume"
    state.consume
  s.commit (Run.ofExcept x) fun (password, state) => (s.bind name (.state state), .octets password)

def wipe (s : Session) (name : Text) : Session × Run Answer :=
  let x := (s.state name "wipe").mapError Error.object
  s.commit (Run.ofExcept x) fun state => (s.bind name (.state state.wipe), .none)

/-- The answer of a server with these seeds to a request; its keys are made before the request is looked up. -/
def respond (s : Session) (request : Text) (seeds : Server.Seeds) : Run RegistrationResponse := do
  let keys ← seeds.keys s.suite
  let element ← s.blindedElement request
  keys.respond s.suite element

def perform (s : Session) : Step → Session × Run Answer
  | .suite group keyExchange hash slowHash =>
      let x := (CipherSuite.ofNames group keyExchange hash slowHash).mapError Error.suite
      s.commit (Run.ofExcept x) fun suite => ({ s with suite := suite }, .text Oprf.suiteIdentifier)
  | .start name password source =>
      s.commit (Client.start s.suite source password) fun started =>
        (s.bindStarted name started, .started started.request.encode)
  | .new name kind fields => s.bindResult name ((Object.ofFields kind fields).mapError .object)
  | .load name kind payload =>
      let x := match payload with
        | .octets octets => Object.decode s.suite.group kind octets
        | .text v => Object.ofText s.suite.group kind v
      s.bindResult name (x.mapError .decode)
  | .copy source name =>
      s.bindResult name do
        let o ← s.object source
        (Object.decode s.suite.group o.kind (← o.encode)).mapError .decode
  | .save name => s.observe (s.blob (.ofObject name)) .octets
  | .saveText name =>
      s.observe (do let o ← s.object name; o.toText) .text
  | .summary name => s.observe ((s.object name).mapError .object) fun o => .text o.summary
  | .consume name => s.consume name
  | .wipe name => s.wipe name
  | .equal a b => s.observe ((s.equal a b).mapError .object) .flag
  | .respond name request seeds =>
      s.commit (s.respond request seeds) fun m => (s.bind name (.response m), .object (.response m))
  | .finish state response name => s.finish state response name
  | .hostStart name password source =>
      s.commit (Host.start s.suite source password) fun handle =>
        (s.bindStarted name handle.result, .hostStarted handle)
  | .hostFinish state response =>
      let x : Run Host.FinishHandle := do
        let state ← s.blob state
        let response ← s.blob response
        Host.finish s.suite state response
      s.commit x fun handle => (s, .hostFinished handle)

end Session

end PakeRegistration
