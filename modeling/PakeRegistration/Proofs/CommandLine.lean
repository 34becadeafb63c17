import PakeRegistration.CommandLine
import PakeRegistration.Proofs.Base64Url
import PakeRegistration.Proofs.Client
import PakeRegistration.Proofs.Json

namespace PakeRegistration

open Outcome

namespace CommandLine

theorem object_eq (fields : List (String × Text)) :
    object fields =
      .object (Json.Reader.strings (fields.map fun field => (Text.ofString field.1, field.2))) := by
  rw [object, Json.Reader.strings, List.map_map]
  rfl

theorem input_line (fields : List (String × Text)) (hne : fields ≠ [])
    (ht : ∀ field ∈ fields, ∀ c ∈ field.2, ¬c.IsSurrogate) : input (line (object fields)) = .ok (object fields) := by
  have hplain : ∀ field ∈ fields.map fun field => (Text.ofString field.1, field.2),
      (∀ c ∈ field.1, ¬c.IsSurrogate) ∧ ∀ c ∈ field.2, ¬c.IsSurrogate := by
    intro field hf
    obtain ⟨field, hmem, rfl⟩ := List.mem_map.mp hf
    exact ⟨Text.not_isSurrogate_ofString field.1, ht field hmem⟩
  have hread := Json.Reader.read_render_strings _ (by simpa using hne) hplain
  rw [input, line, object_eq, hread, mapError_ok]

theorem input_line_encode (first second : String) (octets octets' : Bytes) :
    input (line (object [(first, Base64Url.encode octets), (second, Base64Url.encode octets')])) =
      .ok (object [(first, Base64Url.encode octets), (second, Base64Url.encode octets')]) :=
  input_line _ (by simp) (by simpa using ⟨Base64Url.not_isSurrogate_encode _, Base64Url.not_isSurrogate_encode _⟩)

def IsLine (t : Text) : Prop := ∃ body, t = body ++ [Json.Reader.newline] ∧ Json.Reader.newline ∉ body

theorem isLine_line (fields : List (String × Text)) : IsLine (line (object fields)) := by
  have hbreak : Text.ofString "\n" = [Json.Reader.newline] := by decide
  refine ⟨Json.Printer.render (object fields), by rw [line, hbreak], ?_⟩
  rw [object_eq]
  intro hmem
  exact absurd (Json.Printer.le_of_mem_render_strings _ _ hmem) (by decide)

theorem octetsField_encode {v : Json} {name : String} {octets : Bytes}
    (h : field v name = .ok (.string (Base64Url.encode octets))) : octetsField v name = .ok octets := by
  rw [octetsField, h, ok_bind, Base64Url.decodeJson, Base64Url.decode_encode, mapError_ok]

theorem answer_of_ok {x : Run Json} {v : Json} (h : x.outcome = .ok v) : answer x = .ok ⟨0, line v, []⟩ := by
  rw [answer, h]

theorem exists_of_answer {x : Run Json} {outcome : Outcome} (h : answer x = .ok outcome) :
    (∃ v, x.outcome = .ok v ∧ outcome = ⟨0, line v, []⟩) ∨
      ∃ e, x.outcome = .error e ∧ outcome = ⟨1, [], line (failure e)⟩ := by
  unfold answer at h
  split at h
  next v hv => exact Or.inl ⟨v, hv, (Except.ok.inj h).symm⟩
  next e he =>
    split at h
    · exact Or.inr ⟨e, he, (Except.ok.inj h).symm⟩
    · cases h

def password (stdin : Text) : Except ArgumentError Json :=
  input stdin >>= fun v => field v "password"

def started (handle : Host.StartHandle) : Json :=
  object [("request", Base64Url.encode handle.request), ("state", Base64Url.encode handle.state)]

theorem start_outcome (suite : CipherSuite) (source : RandomSource) (stdin : Text) :
    (start suite source stdin).outcome =
      (password stdin).mapError .argument >>= fun password =>
        (Host.start suite source (.value password)).outcome >>= fun handle => .ok (started handle) := by
  simp only [start, password, Run.outcome_bind, Run.outcome_lift_argument, mapError_bind, bind_assoc]
  rfl

theorem run_start_eq (suite : CipherSuite) (source : RandomSource) (arguments : List Text) (stdin : Text) :
    run suite source ("start" :: arguments) stdin = answer (start suite source stdin) := by
  rw [run, if_pos rfl]

theorem run_start_of_handle {suite : CipherSuite} {source : RandomSource} {stdin : Text} {v : Json}
    {handle : Host.StartHandle} (hp : password stdin = .ok v)
    (hs : (Host.start suite source (.value v)).outcome = .ok handle) (arguments : List Text) :
    run suite source ("start" :: arguments) stdin = .ok ⟨0, line (started handle), []⟩ := by
  rw [run_start_eq, answer_of_ok]
  rw [start_outcome, hp, mapError_ok, ok_bind, hs, ok_bind]

def answered (handle : Host.FinishHandle) : Json :=
  object [("upload", Base64Url.encode handle.upload), ("exportKey", Base64Url.encode handle.result.exportKey)]

theorem finish_outcome (suite : CipherSuite) (stdin : Text) :
    (finish suite stdin).outcome =
      (input stdin).mapError .argument >>= fun v =>
        (octetsField v "state").mapError .argument >>= fun state =>
          (octetsField v "response").mapError .argument >>= fun response =>
            (Host.finish suite state response).outcome >>= fun handle => .ok (answered handle) := by
  simp only [finish, Run.outcome_bind, Run.outcome_lift_argument]
  rfl

theorem run_finish_eq (suite : CipherSuite) (source : RandomSource) (arguments : List Text) (stdin : Text) :
    run suite source ("finish" :: arguments) stdin = answer (finish suite stdin) := by
  have hcommand : ¬("finish" : Text) = Text.ofString "start" := by decide
  rw [run, if_neg hcommand, if_pos rfl]

def Reported {α : Type} (x : Except Error α) : Prop := ∀ e, x = .error e → isReported e.category = true

variable {α β : Type}

theorem reported_ok (a : α) : Reported (.ok a) := by
  intro e h
  cases h

theorem Reported.bind {x : Except Error α} {f : α → Except Error β} (hx : Reported x) (hf : ∀ a, Reported (f a)) :
    Reported (x >>= f) := by
  intro e h
  cases x with
  | ok a => exact hf a e h
  | error e' =>
      cases h
      exact hx e rfl

theorem reported_protocol (x : Except ProtocolError α) : Reported (x.mapError .protocol) := by
  intro e h
  cases x with
  | ok a => cases h
  | error e' =>
      cases h
      cases e' <;> rfl

theorem reported_slowHash (x : Except SlowHashError α) : Reported (x.mapError .slowHash) := by
  intro e h
  cases x with
  | ok a => cases h
  | error e' =>
      cases h
      cases e' <;> rfl

theorem reported_encode (value width : Nat) (hw : width ≤ FixedWidth.maxWidth) :
    Reported ((FixedWidth.encode value width).mapError .range) := by
  rw [FixedWidth.encode_natCast value width hw]
  split
  · exact reported_ok _
  · intro e h
    cases h
    rfl

theorem reported_finalize (G : PrimeGroup) (password blind evaluated : Bytes) :
    Reported (Oprf.finalize G password blind evaluated) := by
  rw [Oprf.finalize, lift_protocol]
  refine (reported_protocol _).bind fun inverse => ?_
  rw [lift_protocol]
  refine (reported_protocol _).bind fun element => ?_
  rw [lift_range, Oprf.transcript, mapError_bind]
  refine Reported.bind ((reported_encode _ 2 (by decide)).bind fun passwordLength => ?_) fun _ => reported_ok _
  rw [mapError_bind]
  exact (reported_encode _ 2 (by decide)).bind fun elementLength => reported_ok _

theorem reported_derive (G : PrimeGroup) (seed : Bytes) :
    Reported (KeyPair.derive G seed KeyPair.defaultInfo).outcome := by
  rw [KeyPair.derive, Run.outcome_bind, Run.outcome_lift_range, KeyPair.input_eq seed _ (by decide), mapError_ok,
    ok_bind, Run.outcome_bind]
  rcases KeyPair.firstScalar_outcome (KeyPair.seedInput seed KeyPair.defaultInfo) 0 KeyPair.counters (by decide) with
    ⟨_, n, _, _, _, _, ho⟩ | ⟨_, ho⟩
  · rw [ho, ok_bind, Run.outcome_bind, Run.outcome_lift_protocol]
    exact (reported_protocol _).bind fun publicKey => reported_ok _
  · rw [ho, error_bind]
    intro e h
    cases h
    rfl

theorem reported_complete (suite : CipherSuite) (output serverPublicKey : Bytes) :
    Reported (Client.complete suite output serverPublicKey).outcome := by
  rw [Client.complete, Run.outcome_bind, Run.outcome_lift_slowHash]
  refine (reported_slowHash _).bind fun stretched => ?_
  rw [Run.outcome_bind]
  exact (reported_derive _ _).bind fun pair => reported_ok _

theorem reported_finish (suite : CipherSuite) (blind password : Bytes) (response : RegistrationResponse) :
    Reported (Client.finish suite { blind := blind, password := password } response).2.outcome := by
  rw [Client.finish_outcome]
  exact (reported_finalize _ _ _ _).bind fun output => reported_complete _ _ _

end CommandLine

end PakeRegistration
