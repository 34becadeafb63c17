import PakeRegistration.Proofs.Base64Url
import PakeRegistration.Proofs.CommandLine
import PakeRegistration.Proofs.Host
import PakeRegistration.Proofs.Session

namespace PakeRegistration.Levels

open Outcome

def direct (suite : CipherSuite) (t : ClientState) (m : RegistrationResponse) : Except Error (Bytes × Bytes) :=
  (Client.finish suite t m).2.outcome >>= fun finished =>
    finished.upload.encode.mapError .range >>= fun upload => .ok (upload, finished.exportKey)

def decoded (suite : CipherSuite) (state response : Bytes) : Except Error (Bytes × Bytes) :=
  (ClientState.decode state).mapError .decode >>= fun t =>
    (RegistrationResponse.decode suite.group response).mapError .decode >>= fun m => direct suite t m

def texted (suite : CipherSuite) (state response : Text) : Except Error (Bytes × Bytes) :=
  (Wire.ofText suite.group (.string state)).mapError .decode >>= fun t =>
    (Wire.ofText suite.group (.string response)).mapError .decode >>= fun m => direct suite t m

def hosted (suite : CipherSuite) (state response : Bytes) : Except Error (Bytes × Bytes) :=
  (Host.finish suite state response).outcome >>= fun handle => .ok (handle.upload, handle.result.exportKey)

def shown : Except Error (Bytes × Bytes) → CommandLine.Outcome
  | .ok (upload, exportKey) =>
      ⟨0, CommandLine.line (CommandLine.object
        [("upload", Base64Url.encode upload), ("exportKey", Base64Url.encode exportKey)]), []⟩
  | .error e => ⟨1, [], CommandLine.line (CommandLine.failure e)⟩

/-- A started registration, whose state has these octets, ends alike on all levels. The command line may get the
password, the state and the response in any text that holds them as fields, and a session may do anything in between
that is not about the state itself. -/
structure Agree (suite : CipherSuite) (source : RandomSource) (password : Bytes) (started : Client.Started)
    (m : RegistrationResponse) (state : Bytes) : Prop where
  unconsumed : started.state.consumed = false
  encode : Wire.encode started.state = .ok state ∧ Wire.encode m = .ok m.encode
  toText : Wire.toText started.state = .ok (Base64Url.encode state) ∧ Wire.toText m = .ok (Base64Url.encode m.encode)
  decoded : decoded suite state m.encode = direct suite started.state m
  texted : texted suite (Base64Url.encode state) (Base64Url.encode m.encode) = direct suite started.state m
  hosted (p : Host.Password) (hp : p.toOctets = .ok password) :
    ∃ handle, (Host.start suite source p).outcome = .ok handle ∧ handle.result = started ∧ handle.state = state ∧
      hosted suite handle.state m.encode = direct suite started.state m
  commandLine (t : Text) (ht : t.utf8 = .ok password) (stdin : Text) (v : Json) (hv : CommandLine.input stdin = .ok v)
    (hpassword : CommandLine.field v "password" = .ok (.string t)) (arguments : List Text) :
    ∃ stdout printed, CommandLine.run suite source ("start" :: arguments) stdin = .ok ⟨0, stdout, []⟩ ∧
      CommandLine.input stdout = .ok printed ∧
      CommandLine.field printed "state" = .ok (.string (Base64Url.encode state)) ∧
      ∀ source' arguments' stdin' v', CommandLine.input stdin' = .ok v' →
        CommandLine.field v' "state" = .ok (.string (Base64Url.encode state)) →
        CommandLine.field v' "response" = .ok (.string (Base64Url.encode m.encode)) →
        CommandLine.run suite source' ("finish" :: arguments') stdin' = .ok (shown (direct suite started.state m))
  session (s : Session) (name : Text) (hs : s.state? name = some started.state) (steps : List Session.Step)
    (hsteps : ∀ step ∈ steps, name ∉ step.binds ∧ step.changes? ≠ some name) :
    (s.after steps).state? name = some started.state ∧
      ((s.after steps).suite = suite →
        ((s.after steps).perform (.hostFinish (.ofObject name) (.octets m.encode))).2.outcome =
          (Host.finish suite state m.encode).outcome >>= fun handle => .ok (.hostFinished handle))

theorem ofText_encode {α : Type} [Wire α] (G : PrimeGroup) (octets : Bytes) :
    (Wire.ofText G (.string (Base64Url.encode octets)) : Except DecodeError α) = Wire.decode G octets := by
  rw [Wire.ofText, Base64Url.decodeJson, Base64Url.decode_encode]
  rfl

theorem hosted_eq_decoded (suite : CipherSuite) (state response : Bytes) :
    hosted suite state response = decoded suite state response := by
  rw [hosted, Host.finish_outcome, decoded]
  simp only [bind_assoc, ok_bind, direct]

theorem reported_direct (suite : CipherSuite) (blind password : Bytes) (m : RegistrationResponse) :
    CommandLine.Reported (direct suite { blind := blind, password := password } m) := by
  intro e he
  cases hx : (Client.finish suite { blind := blind, password := password } m).2.outcome with
  | error e' =>
      rw [direct, hx, error_bind] at he
      cases he
      exact CommandLine.reported_finish suite blind password m _ hx
  | ok finished =>
      have hencode := RegistrationUpload.encode_of_length (Client.envelope_length hx)
      rw [direct, hx, ok_bind, hencode, mapError_ok, ok_bind] at he
      cases he

theorem run_finish {suite : CipherSuite} (source : RandomSource) {stdin : Text} {v : Json} {state response : Bytes}
    (hv : CommandLine.input stdin = .ok v)
    (hstate : CommandLine.field v "state" = .ok (.string (Base64Url.encode state)))
    (hresponse : CommandLine.field v "response" = .ok (.string (Base64Url.encode response)))
    (hreported : CommandLine.Reported (hosted suite state response)) (arguments : List Text) :
    CommandLine.run suite source ("finish" :: arguments) stdin = .ok (shown (hosted suite state response)) := by
  have ho : (CommandLine.finish suite stdin).outcome =
      hosted suite state response >>= fun (upload, exportKey) => .ok (CommandLine.object
        [("upload", Base64Url.encode upload), ("exportKey", Base64Url.encode exportKey)]) := by
    rw [CommandLine.finish_outcome, hv, mapError_ok, ok_bind, CommandLine.octetsField_encode hstate, mapError_ok,
      ok_bind, CommandLine.octetsField_encode hresponse, mapError_ok, ok_bind, hosted, bind_assoc]
    rfl
  rw [CommandLine.run_finish_eq, CommandLine.answer, ho]
  cases hx : hosted suite state response with
  | error e =>
      rw [error_bind]
      simp only [hreported e hx, if_true]
      rfl
  | ok result => rfl

theorem hostFinish_outcome {s : Session} {name : Text} {t : ClientState} {state : Bytes}
    (ht : s.state? name = some t) (he : t.encode = .ok state) (response : Bytes) :
    (s.perform (.hostFinish (.ofObject name) (.octets response))).2.outcome =
      (Host.finish s.suite state response).outcome >>= fun handle => .ok (.hostFinished handle) := by
  have hstate : s.blob (.ofObject name) = .ok state := by rw [Session.blob_ofObject ht, he]
  have hresponse : s.blob (.octets response) = .ok response := rfl
  rw [Session.perform, Session.commit_outcome, Run.outcome_bind, Run.outcome_lift, hstate, ok_bind, Run.outcome_bind,
    Run.outcome_lift, hresponse, ok_bind]

theorem agree_of_decode {suite : CipherSuite} {source : RandomSource} {password : Bytes} {started : Client.Started}
    {m : RegistrationResponse} {state blind : Bytes}
    (hs : (Client.start suite source password).outcome = .ok started)
    (hstate : started.state = { blind := blind, password := password })
    (he : started.state.encode = .ok state) (hd : ClientState.decode state = .ok started.state)
    (hm : RegistrationResponse.decode suite.group m.encode = .ok m) :
    Agree suite source password started m state := by
  -- every level decodes the same octets, so it is enough that they decode to what was encoded
  have hdecoded : decoded suite state m.encode = direct suite started.state m := by
    rw [decoded, hd, hm, mapError_ok, ok_bind, mapError_ok, ok_bind]
  have hhosted : hosted suite state m.encode = direct suite started.state m := by
    rw [hosted_eq_decoded, hdecoded]
  have hreported : CommandLine.Reported (hosted suite state m.encode) := by
    rw [hhosted, hstate]
    exact reported_direct suite blind password m
  have htext : Wire.toText started.state = .ok (Base64Url.encode state) := by
    change (started.state.encode >>= _) = _
    rw [he]
    rfl
  refine ⟨by rw [hstate], ⟨he, rfl⟩, ⟨htext, rfl⟩, hdecoded, ?_, ?_, ?_, ?_⟩
  · rw [texted, ofText_encode, ofText_encode]
    exact hdecoded
  · intro p hp
    exact ⟨_, Host.start_of_octets hp hs he, rfl, rfl, hhosted⟩
  · intro t ht stdin v hv hpassword arguments
    have hp : (Host.Password.value (.string t)).toOctets = .ok password := by
      rw [Host.Password.toOctets, ht, mapError_ok]
    have hgiven : CommandLine.password stdin = .ok (.string t) := by
      rw [CommandLine.password, hv, ok_bind, hpassword]
    have hrun := CommandLine.run_start_of_handle hgiven (Host.start_of_octets hp hs he) arguments
    refine ⟨_, _, hrun, CommandLine.input_line_encode _ _ _ _, rfl, ?_⟩
    intro source' arguments' stdin' v' hv' hstate' hresponse'
    rw [run_finish source' hv' hstate' hresponse' hreported arguments', hhosted]
  · intro s name ht steps hsteps
    have ho := Session.after_object? s steps name hsteps
    have ht' : (s.after steps).state? name = some started.state := by rw [Session.state?_congr ho, ht]
    refine ⟨ht', fun hsuite => ?_⟩
    rw [hostFinish_outcome ht' he, hsuite]

/-- Whatever a registration was started with and whatever it is answered with, it ends alike on all levels. -/
theorem levels_agree (suite : CipherSuite) (source : RandomSource) (password : Bytes) (started : Client.Started)
    (hs : (Client.start suite source password).outcome = .ok started) (response : Bytes) (m : RegistrationResponse)
    (hm : RegistrationResponse.decode suite.group response = .ok m) :
    m.encode = response ∧ ∃ state, Agree suite source password started m state := by
  obtain ⟨hl, n, _, hn, hstate, _, _⟩ := Client.exists_start hs
  obtain ⟨state, he, hd⟩ := ClientState.decode_encode n hn password hl
  obtain ⟨hresponse, _, _⟩ := RegistrationResponse.exists_of_decode hm
  rw [← hstate] at he hd
  rw [← hresponse] at hm
  exact ⟨hresponse, state, agree_of_decode hs hstate he hd hm⟩

def sampleSuite : CipherSuite := ⟨Ristretto255.group, { memoryCost := 8, timeCost := 1 }⟩

def sampleResponse : RegistrationResponse := ⟨Residues.sampleEvaluated, Ristretto255.generatorOctets⟩

theorem levels_agree_sample :
    (Client.start sampleSuite Residues.sampleSource (Bytes.ascii "pw")).outcome = .ok Residues.sampleStarted ∧
      RegistrationResponse.decode sampleSuite.group sampleResponse.encode = .ok sampleResponse ∧
      ∃ state,
        Agree sampleSuite Residues.sampleSource (Bytes.ascii "pw") Residues.sampleStarted sampleResponse state ∧
        (∃ stdout, CommandLine.run sampleSuite Residues.sampleSource ["start"]
          (CommandLine.line (CommandLine.object [("password", "pw")])) = .ok ⟨0, stdout, []⟩) ∧
        CommandLine.run sampleSuite Residues.sampleSource ["finish"] (CommandLine.line (CommandLine.object
            [("state", Base64Url.encode state), ("response", Base64Url.encode sampleResponse.encode)])) =
          .ok (shown (direct sampleSuite Residues.sampleStarted.state sampleResponse)) := by
  have hs : (Client.start sampleSuite Residues.sampleSource (Bytes.ascii "pw")).outcome =
      .ok Residues.sampleStarted := by
    decide +kernel
  have hm : RegistrationResponse.decode sampleSuite.group sampleResponse.encode = .ok sampleResponse := by
    decide +kernel
  obtain ⟨_, state, hagree⟩ := levels_agree sampleSuite Residues.sampleSource (Bytes.ascii "pw")
    Residues.sampleStarted hs sampleResponse.encode sampleResponse hm
  have hpassword := CommandLine.input_line [("password", "pw")] (by simp)
    (by simpa using Text.not_isSurrogate_ofString "pw")
  have hfinish := CommandLine.input_line
    [("state", Base64Url.encode state), ("response", Base64Url.encode sampleResponse.encode)] (by simp)
    (by simpa using ⟨Base64Url.not_isSurrogate_encode _, Base64Url.not_isSurrogate_encode _⟩)
  obtain ⟨stdout, _, hstart, _, _, hrun⟩ := hagree.commandLine "pw" rfl _ _ hpassword rfl []
  exact ⟨hs, hm, state, hagree, ⟨stdout, hstart⟩, hrun _ [] _ _ hfinish rfl rfl⟩

end PakeRegistration.Levels
