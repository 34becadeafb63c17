import PakeRegistration.Proofs.Base64Url
import PakeRegistration.Proofs.Checks
import PakeRegistration.Proofs.Emission
import PakeRegistration.Proofs.Host

/-!
What finishing a registration shows for a text on standard input. The command is a chain of steps, and each step ends
as the checks do that belong to it. Main statement: the upload and the export key are shown if nothing is wrong, and
the first thing that is wrong is shown otherwise.
-/

namespace PakeRegistration

open Outcome

namespace CommandLine

section Steps

variable (suite : CipherSuite) (stdin : Text)

/-- A result that is there if some checks find nothing wrong, and an error if one of them does, that of the first. -/
inductive Follows {α : Type} (P : α → Prop) (checks : List Check) : Except Error α → Prop
  | ok {a : α} (h : firstFault? suite stdin checks = none) (ha : P a) : Follows P checks (.ok a)
  | error {check : Check} {e : Error} (h : firstFault? suite stdin checks = some (check, e)) :
      Follows P checks (.error e)

variable {suite stdin} {α β ε : Type}

theorem Follows.bind {P : α → Prop} {Q : β → Prop} {checks checks' : List Check} {x : Except Error α}
    {f : α → Except Error β} (hx : Follows suite stdin P checks x)
    (hf : ∀ a, P a → Follows suite stdin Q checks' (f a)) : Follows suite stdin Q (checks ++ checks') (x >>= f) := by
  have happend : firstFault? suite stdin (checks ++ checks') =
      (firstFault? suite stdin checks).or (firstFault? suite stdin checks') := List.findSome?_append
  cases hx with
  | @ok a h ha =>
      rw [h, Option.none_or] at happend
      have hy := hf a ha
      rw [ok_bind]
      generalize f a = y at hy ⊢
      cases hy with
      | ok h' hb => exact .ok (happend.trans h') hb
      | error h' => exact .error (happend.trans h')
  | error h =>
      rw [h, Option.some_or] at happend
      exact .error happend

theorem Follows.map {P : α → Prop} {Q : β → Prop} {checks : List Check} {x : Except Error α} {f : α → β}
    (hx : Follows suite stdin P checks x) (h : ∀ a, P a → Q (f a)) :
    Follows suite stdin Q checks (x >>= fun a => .ok (f a)) := by
  cases hx with
  | ok hnone ha => exact .ok hnone (h _ ha)
  | error hsome => exact .error hsome

theorem follows_single {P : α → Prop} {check : Check} {x : Except ε α} (g : ε → Error)
    (h : check.fault? suite stdin = (refusal? x).map g) (hP : ∀ a, x = .ok a → P a) :
    Follows suite stdin P [check] (x.mapError g) := by
  cases x with
  | ok a => exact .ok (firstFault?_of_none h []) (hP a rfl)
  | error e => exact .error (firstFault?_of_fault h [])

def asFields : Json → Except ArgumentError (List (Text × Json))
  | .object fields => .ok fields
  | v => .error (.noFields v.kind)

def asText : Json → Except Base64Url.Fault Text
  | .string t => .ok t
  | v => .error (.notText v.kind)

theorem follows_input : Follows suite stdin (input stdin = .ok ·) [.json] ((input stdin).mapError .argument) :=
  follows_single _ rfl fun _ h => h

theorem follows_asFields {v : Json} (hv : input stdin = .ok v) :
    Follows suite stdin (fields? stdin = some ·) [.object] ((asFields v).mapError .argument) := by
  refine follows_single _ ?_ fun fields hfields => ?_
  · rw [Check.fault?, hv]
    cases v <;> rfl
  · cases v with
    | object fields' =>
        rw [fields?, hv, ← Except.ok.inj hfields]
    | null | bool | int | decimal | string | array => cases hfields

theorem follows_field {fields : List (Text × Json)} (hfields : fields? stdin = some fields) (name : String) :
    Follows suite stdin (field? stdin name = some ·) [.present name]
      ((field (.object fields) name).mapError .argument) := by
  refine follows_single _ ?_ fun v hv => ?_
  · rw [Check.fault?, hfields, Option.bind_some]
    cases hx : Json.field? name fields <;> simp [field, hx, refusal?]
  · rw [field?, hfields, Option.bind_some]
    cases hx : Json.field? name fields with
    | none => simp [field, hx] at hv
    | some w => simpa [field, hx] using hv

theorem follows_asText {name : String} {v : Json} (hv : field? stdin name = some v) :
    Follows suite stdin (text? stdin name = some ·) [.text name]
      ((asText v).mapError fun e => .argument (.text e)) := by
  refine follows_single _ ?_ fun t ht => ?_
  · rw [Check.fault?, hv, Option.bind_some]
    cases v <;> rfl
  · rw [text?, hv]
    cases v with
    | string t' => simpa [asText] using ht
    | null | bool | int | decimal | array | object => cases ht

theorem follows_digits {name : String} {t : Text} (ht : text? stdin name = some t) :
    Follows suite stdin (octets? stdin name = some ·) [.digits name]
      ((Base64Url.decode t).mapError fun e => .argument (.text e)) := by
  refine follows_single _ ?_ fun data hdata => ?_
  · rw [Check.fault?, ht, Option.bind_some]
  · rw [octets?, ht, Option.bind_some, hdata]
    rfl

theorem octetsField_object (fields : List (Text × Json)) (name : String) :
    (octetsField (.object fields) name).mapError Error.argument =
      (field (.object fields) name).mapError Error.argument >>= fun v =>
        (asText v).mapError (fun e => Error.argument (.text e)) >>= fun t =>
          (Base64Url.decode t).mapError fun e => .argument (.text e) := by
  rw [octetsField, mapError_bind]
  congr 1
  funext v
  cases v with
  | string t => cases h : Base64Url.decode t <;> simp [Base64Url.decodeJson, asText, h]
  | null | bool | int | decimal | array | object => rfl

theorem follows_octetsField {fields : List (Text × Json)} (hfields : fields? stdin = some fields) (name : String) :
    Follows suite stdin (octets? stdin name = some ·) (Check.ofField name)
      ((octetsField (.object fields) name).mapError .argument) := by
  rw [octetsField_object]
  refine (follows_field hfields name).bind fun v hv => ?_
  exact (follows_asText hv).bind fun t ht => follows_digits ht

structure Ended (suite : CipherSuite) (stdin : Text) (upload exportKey : Bytes) : Prop where
  accepted : Accepted suite stdin
  notExhausted : ¬Exhausted suite stdin
  upload : upload.length = 130 ∧ ∃ u, RegistrationUpload.decode suite.group upload = .ok u
  exportKey : exportKey.length = 64

theorem not_exhausted {seed : Bytes} (hseed : seed? suite stdin = some seed)
    (hd : KeyPair.Derivable seed KeyPair.defaultInfo) : ¬Exhausted suite stdin := by
  rintro ⟨found, hmem, hnot⟩
  rw [hseed, Option.mem_some] at hmem
  rw [← hmem] at hnot
  exact hnot hd

theorem seed?_eq_some {state response output : Bytes} {t : ClientState} {m : RegistrationResponse}
    (hs : octets? stdin "state" = some state) (hr : octets? stdin "response" = some response)
    (ht : ClientState.decode state = .ok t) (hm : RegistrationResponse.decode suite.group response = .ok m)
    (hf : Oprf.finalize suite.group t.password t.blind m.evaluatedElement = .ok output) :
    seed? suite stdin = some (Client.keysOf suite.slowHash output).seed := by
  simp [seed?, hs, hr, ht, hm, hf, Except.toOption]

theorem ended_of_finish {E : Type} [AddCommGroup E] (I : suite.group.Interpretation E) {state response seed : Bytes}
    {handle : Host.FinishHandle} {t : ClientState} {m : RegistrationResponse} (hgiven : Given suite stdin t m)
    (hfault : suite.slowHash.fault? = none) (hseed : seed? suite stdin = some seed)
    (hd : KeyPair.Derivable seed KeyPair.defaultInfo)
    (hok : (Host.finish suite state response).outcome = .ok handle) (hkey : handle.result.exportKey.length = 64) :
    Ended suite stdin handle.upload handle.result.exportKey := by
  obtain ⟨_, _, hfinished, hencode⟩ := Host.exists_of_finish hok
  obtain ⟨octets, hoctets, hlength, hupload⟩ := Client.decode_upload I hfinished
  obtain rfl : handle.upload = octets := Except.ok.inj (hencode.symm.trans hoctets)
  exact ⟨⟨⟨t, m, hgiven⟩, hfault⟩, not_exhausted hseed hd, ⟨hlength, _, hupload⟩, hkey⟩

theorem follows_costs {E : Type} [AddCommGroup E] (I : suite.group.Interpretation E) {state response : Bytes}
    {t : ClientState} {m : RegistrationResponse} (hs : octets? stdin "state" = some state)
    (hr : octets? stdin "response" = some response) (ht : ClientState.decode state = .ok t)
    (hm : RegistrationResponse.decode suite.group response = .ok m) :
    Follows suite stdin (fun handle => Ended suite stdin handle.upload handle.result.exportKey) [.costs, .keyPair]
      (Host.finish suite state response).outcome := by
  obtain ⟨output, hf, hcosts, hpair⟩ := Host.finish_of_decode I ht hm
  have hseed := seed?_eq_some hs hr ht hm hf
  cases hfault : suite.slowHash.fault? with
  | some fault =>
      rw [hcosts fault hfault]
      exact .error (firstFault?_of_fault (by rw [Check.fault?, hfault]; rfl) _)
  | none =>
      have hnone : Check.costs.fault? suite stdin = none := by rw [Check.fault?, hfault]; rfl
      by_cases hd : KeyPair.Derivable (Client.keysOf suite.slowHash output).seed KeyPair.defaultInfo
      · obtain ⟨handle, hok, _, hkey⟩ := (hpair hfault).1 hd
        have hpresent : Check.keyPair.fault? suite stdin = none := by
          rw [Check.fault?, hseed, Option.bind_some, if_pos hd]
        rw [hok]
        refine .ok ((firstFault?_of_none hnone _).trans (firstFault?_of_none hpresent _)) ?_
        exact ended_of_finish I ⟨⟨state, hs, ht⟩, ⟨response, hr, hm⟩⟩ hfault hseed hd hok hkey
      · have hmissing : Check.keyPair.fault? suite stdin = some (.protocol .keyPairExhausted) := by
          rw [Check.fault?, hseed, Option.bind_some, if_neg hd]
        rw [(hpair hfault).2 hd]
        exact .error ((firstFault?_of_none hnone _).trans (firstFault?_of_fault hmissing _))

theorem follows_state {state : Bytes} (hs : octets? stdin "state" = some state) :
    Follows suite stdin (ClientState.decode state = .ok ·) [.state] ((ClientState.decode state).mapError .decode) :=
  follows_single _ (by rw [Check.fault?, hs, Option.bind_some]) fun _ h => h

theorem follows_response {response : Bytes} (hr : octets? stdin "response" = some response) :
    Follows suite stdin (RegistrationResponse.decode suite.group response = .ok ·) [.response]
      ((RegistrationResponse.decode suite.group response).mapError .decode) :=
  follows_single _ (by rw [Check.fault?, hr, Option.bind_some]) fun _ h => h

theorem follows_finish {E : Type} [AddCommGroup E] (I : suite.group.Interpretation E) {state response : Bytes}
    (hs : octets? stdin "state" = some state) (hr : octets? stdin "response" = some response) :
    Follows suite stdin (fun handle => Ended suite stdin handle.upload handle.result.exportKey)
      [.state, .response, .costs, .keyPair] (Host.finish suite state response).outcome := by
  have hdecode := Host.finish_outcome suite state response
  rw [hdecode]
  refine (follows_state hs).bind fun t ht => (follows_response hr).bind fun m hm => ?_
  -- with both of them decoded, what is left of the command is the command itself
  rw [ht, hm, mapError_ok, ok_bind, mapError_ok, ok_bind] at hdecode
  rw [← hdecode]
  exact follows_costs I hs hr ht hm

theorem octetsField_bind (v : Json) (f : Bytes → Bytes → Except Error β) :
    ((octetsField v "state").mapError Error.argument >>= fun state =>
      (octetsField v "response").mapError Error.argument >>= fun response => f state response) =
      (asFields v).mapError Error.argument >>= fun fields =>
        (octetsField (.object fields) "state").mapError Error.argument >>= fun state =>
          (octetsField (.object fields) "response").mapError Error.argument >>= fun response => f state response := by
  cases v <;> rfl

theorem follows_order (hG : suite.group.Lawful) (stdin : Text) :
    Follows suite stdin
      (fun v => ∃ handle, v = answered handle ∧ Ended suite stdin handle.upload handle.result.exportKey) Check.order
      (finish suite stdin).outcome := by
  obtain ⟨E, _, ⟨I⟩⟩ := hG
  rw [finish_outcome]
  refine follows_input.bind fun v hv => ?_
  rw [octetsField_bind]
  refine (follows_asFields hv).bind fun fields hfields => ?_
  refine (follows_octetsField hfields "state").bind fun state hs => ?_
  refine (follows_octetsField hfields "response").bind fun response hr => ?_
  exact (follows_finish I hs hr).map fun handle h => ⟨handle, rfl, h⟩

end Steps

/-- What is shown for a text to finish a registration with: one line on one of the outputs and nothing on the other. -/
structure Shown (suite : CipherSuite) (stdin : Text) (outcome : Outcome) : Prop where
  exit_zero_iff : outcome.exit = 0 ↔ Accepted suite stdin ∧ ¬Exhausted suite stdin
  success (h : outcome.exit = 0) :
    outcome.stderr = [] ∧ IsLine outcome.stdout ∧ ∃ t t' upload exportKey,
      input outcome.stdout = .ok (object [("upload", t), ("exportKey", t')]) ∧ Base64Url.decode t = .ok upload ∧
        Base64Url.decode t' = .ok exportKey ∧ upload.length = 130 ∧
        (∃ u, RegistrationUpload.decode suite.group upload = .ok u) ∧ exportKey.length = 64
  failure (h : outcome.exit ≠ 0) :
    outcome.exit = 1 ∧ outcome.stdout = [] ∧ IsLine outcome.stderr ∧ ∃ check e,
      firstFault? suite stdin Check.order = some (check, e) ∧ e.category ∈ check.categories ∧
        input outcome.stderr = .ok (object [("error", e.category.name), ("message", e.message)])

theorem Shown.of_firstFault? {suite : CipherSuite} {stdin : Text} {outcome : Outcome} (h : Shown suite stdin outcome)
    {check : Check} {e : Error} (hfirst : firstFault? suite stdin Check.order = some (check, e)) :
    outcome.exit = 1 ∧ input outcome.stderr = .ok (object [("error", e.category.name), ("message", e.message)]) := by
  have hexit : outcome.exit ≠ 0 := fun hzero => not_accepted_of_firstFault? hfirst (h.exit_zero_iff.mp hzero)
  obtain ⟨hone, _, _, check', e', hfirst', _, hstderr⟩ := h.failure hexit
  rw [hfirst] at hfirst'
  cases hfirst'
  exact ⟨hone, hstderr⟩

/-- Every text within the limits of numbers and nesting is answered by an upload and an export key, if it and the costs
have all that is asked, or else by the first thing that is wrong with it. -/
theorem finish_first_fault (suite : CipherSuite) (hG : suite.group.Lawful) (source : RandomSource)
    (arguments : List Text) (stdin : Text) (hl : WithinLimits stdin) :
    ∃ outcome, run suite source ("finish" :: arguments) stdin = .ok outcome ∧ Shown suite stdin outcome := by
  have hfollows := follows_order hG stdin
  rw [run_finish_eq, answer]
  generalize (finish suite stdin).outcome = x at hfollows ⊢
  cases hfollows with
  | @ok v hnone hv =>
      obtain ⟨handle, rfl, hended⟩ := hv
      refine ⟨_, rfl, iff_of_true rfl ⟨hended.accepted, hended.notExhausted⟩, fun _ => ⟨rfl, isLine_line _, ?_⟩,
        fun h => absurd rfl h⟩
      have hinput := input_line
        [("upload", Base64Url.encode handle.upload), ("exportKey", Base64Url.encode handle.result.exportKey)] (by simp)
        (by simpa using ⟨Base64Url.not_isSurrogate_encode _, Base64Url.not_isSurrogate_encode _⟩)
      exact ⟨_, _, _, _, hinput, Base64Url.decode_encode _, Base64Url.decode_encode _, hended.upload.1, hended.upload.2,
        hended.exportKey⟩
  | @error check e hfirst =>
      obtain ⟨hcategory, hmessage⟩ := Check.said hl (exists_of_firstFault? hfirst).2
      simp only [isReported_of_mem_categories hcategory, if_true]
      refine ⟨_, rfl, iff_of_false Nat.one_ne_zero (not_accepted_of_firstFault? hfirst),
        fun h => absurd h Nat.one_ne_zero, fun _ => ⟨rfl, rfl, isLine_line _, check, e, hfirst, hcategory, ?_⟩⟩
      exact input_line _ (by simp) (by simpa using ⟨Text.not_isSurrogate_ofString _, hmessage⟩)

def sampleNumber : Text := "\x7b\"state\": 7\x7d"

def sampleDigit : Text := line (object [("state", "AA"), ("response", "A")])

def sampleAccepted : Text :=
  line (object [("state", Base64Url.encode Host.sampleState),
    ("response", Base64Url.encode (Residues.sampleEvaluated ++ Ristretto255.generatorOctets))])

/-- A number for the state comes before a response that is not there, and a response that is no text of octets before a
state that is not decoded; what belongs to the sample registration is accepted. -/
theorem finish_first_fault_sample :
    Residues.sampleSuite.group.Lawful ∧
      (WithinLimits sampleNumber ∧ ∃ outcome,
        run Residues.sampleSuite Residues.sampleSource ["finish"] sampleNumber = .ok outcome ∧ outcome.exit = 1 ∧
          input outcome.stderr = .ok (object [("error", "TypeError"), ("message", "Expected str, got int")])) ∧
      (WithinLimits sampleDigit ∧ ∃ outcome,
        run Residues.sampleSuite Residues.sampleSource ["finish"] sampleDigit = .ok outcome ∧ outcome.exit = 1 ∧
          input outcome.stderr = .ok (object [("error", "ValueError"), ("message", "Invalid base64url length: 1")])) ∧
      WithinLimits sampleAccepted ∧ ∃ outcome,
        run Residues.sampleSuite Residues.sampleSource ["finish"] sampleAccepted = .ok outcome ∧ outcome.exit = 0 := by
  have hnumber : WithinLimits sampleNumber := withinLimits_of_isSome (by decide +kernel)
  have hdigit : WithinLimits sampleDigit := withinLimits_of_isSome (by decide +kernel)
  have htype : firstFault? Residues.sampleSuite sampleNumber Check.order =
      some (.text "state", .argument (.text (.notText .int))) := by
    decide +kernel
  have hvalue : firstFault? Residues.sampleSuite sampleDigit Check.order =
      some (.digits "response", .argument (.text (.length 1))) := by
    decide +kernel
  have hinput : input sampleAccepted = .ok (object [("state", Base64Url.encode Host.sampleState),
      ("response", Base64Url.encode (Residues.sampleEvaluated ++ Ristretto255.generatorOctets))]) :=
    input_line _ (by simp) (by simpa using ⟨Base64Url.not_isSurrogate_encode _, Base64Url.not_isSurrogate_encode _⟩)
  have hlimits : WithinLimits sampleAccepted := by
    intro e he
    rw [input, he] at hinput
    cases hinput
  have hs : octets? sampleAccepted "state" = some Host.sampleState :=
    (octets?_eq_some_iff _ _).mpr ⟨_, _, hinput, rfl, Base64Url.decode_encode _⟩
  have hr : octets? sampleAccepted "response" = some (Residues.sampleEvaluated ++ Ristretto255.generatorOctets) :=
    (octets?_eq_some_iff _ _).mpr ⟨_, _, hinput, rfl, Base64Url.decode_encode _⟩
  have ht : ClientState.decode Host.sampleState = .ok Residues.sampleStarted.state := by decide +kernel
  have hm : RegistrationResponse.decode Residues.sampleSuite.group
      (Residues.sampleEvaluated ++ Ristretto255.generatorOctets) =
        .ok ⟨Residues.sampleEvaluated, Ristretto255.generatorOctets⟩ := by
    decide +kernel
  have haccepted : Accepted Residues.sampleSuite sampleAccepted :=
    ⟨⟨_, _, ⟨_, hs, ht⟩, ⟨_, hr, hm⟩⟩, by decide⟩
  have hseed := seed?_eq_some hs hr ht hm KeyPair.finalize_sample
  have hfinish := finish_first_fault Residues.sampleSuite Residues.sample_lawful Residues.sampleSource []
  obtain ⟨_, hrun, hshown⟩ := hfinish sampleNumber hnumber
  obtain ⟨_, hrun', hshown'⟩ := hfinish sampleDigit hdigit
  obtain ⟨_, hrun'', hshown''⟩ := hfinish sampleAccepted hlimits
  refine ⟨Residues.sample_lawful, ⟨hnumber, _, hrun, hshown.of_firstFault? htype⟩,
    ⟨hdigit, _, hrun', hshown'.of_firstFault? hvalue⟩, hlimits, _, hrun'', ?_⟩
  exact hshown''.exit_zero_iff.mpr ⟨haccepted, not_exhausted hseed KeyPair.derivable_sampleOutput⟩

end CommandLine

end PakeRegistration
