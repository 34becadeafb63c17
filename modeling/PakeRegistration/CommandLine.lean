import PakeRegistration.Host
import PakeRegistration.Json.Printer

/-!
The command line: one command, a JSON object on standard input, and one line of JSON as the answer or as the report
of an error. Errors of the engine and of the input are reported; the others end the program.
-/

namespace PakeRegistration.CommandLine

structure Outcome where
  exit : Nat
  stdout : Text
  stderr : Text
deriving DecidableEq, Repr

def line (v : Json) : Text :=
  Json.Printer.render v ++ Text.ofString "\n"

def object (fields : List (String × Text)) : Json :=
  .object (fields.map fun (name, t) => (Text.ofString name, .string t))

/-- The last field of this name of an object. -/
def field (v : Json) (name : String) : Except ArgumentError Json :=
  match v with
  | .object fields =>
      match Json.field? (Text.ofString name) fields with
      | some found => .ok found
      | none => .error (.missingField name)
  | v => .error (.noFields v.kind)

def octetsField (v : Json) (name : String) : Except ArgumentError Bytes := do
  (Base64Url.decodeJson (← field v name)).mapError .text

def input (stdin : Text) : Except ArgumentError Json :=
  (Json.Reader.read stdin).mapError .json

def start (suite : CipherSuite) (source : RandomSource) (stdin : Text) : Run Json := do
  let data ← input stdin
  let password ← field data "password"
  let handle ← Host.start suite source (.value password)
  return object [("request", Base64Url.encode handle.request), ("state", Base64Url.encode handle.state)]

def finish (suite : CipherSuite) (stdin : Text) : Run Json := do
  let data ← input stdin
  let state ← octetsField data "state"
  let response ← octetsField data "response"
  let handle ← Host.finish suite state response
  return object
    [("upload", Base64Url.encode handle.upload), ("exportKey", Base64Url.encode handle.result.exportKey)]

def failure (e : Error) : Json :=
  object [("error", Text.ofString e.category.name), ("message", e.message)]

def isReported (c : Category) : Bool :=
  c ∈ Category.engineTree ∨ c ∈ [Category.key, .type, .value, .unencodable, .json]

/-- The answer on standard output, or the report of an error on standard error. Any other error is handed on. -/
def answer (x : Run Json) : Except Error Outcome :=
  match x.outcome with
  | .ok v => .ok ⟨0, line v, []⟩
  | .error e => if isReported e.category then .ok ⟨1, [], line (failure e)⟩ else .error e

def complaint (t : Text) : Outcome :=
  ⟨1, [], t ++ Text.ofString "\n"⟩

/-- What the program does for its arguments and standard input; arguments behind the command are not looked at. -/
def run (suite : CipherSuite) (source : RandomSource) (arguments : List Text) (stdin : Text) :
    Except Error Outcome :=
  match arguments with
  | [] => .ok (complaint "usage: testhelper.py <command>")
  | command :: _ =>
      if command = Text.ofString "start" then answer (start suite source stdin)
      else if command = Text.ofString "finish" then answer (finish suite stdin)
      else .ok (complaint ("unknown command: " ++ command))

end PakeRegistration.CommandLine
