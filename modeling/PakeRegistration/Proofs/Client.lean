import PakeRegistration.Client
import PakeRegistration.Proofs.KeyPair

namespace PakeRegistration

theorem SlowHash.hash_eq (p : Argon2.Parameters) (input : Bytes) (hl : input.length = inputSize)
    (hp : p.fault? = none) : hash p input = .ok (Argon2.digest p input salt) := by
  rw [hash, if_pos hl, Argon2.hash, hp]
  rfl

theorem SlowHash.hash_eq_error (p : Argon2.Parameters) (input : Bytes) (hl : input.length = inputSize)
    (fault : Argon2.Fault) (hp : p.fault? = some fault) : hash p input = .error (.parameters fault) := by
  rw [hash, if_pos hl, Argon2.hash, hp]
  rfl

namespace Client

theorem exists_start {suite : CipherSuite} {source : RandomSource} {password : Bytes} {started : Started}
    (h : (start suite source password).outcome = .ok started) :
    password.length ≤ ClientState.maxPassword ∧
      ∃ n input, ¬Scalar.order ∣ n ∧ started.state = { blind := Scalar.ofNat n, password := password } ∧
        Oprf.hashToGroup suite.group password = .ok input ∧
        suite.group.multiply (Scalar.ofNat n) input = .ok started.request.blindedElement := by
  unfold start at h
  split at h
  · cases h
  next hl =>
    rw [Run.outcome_bind, Outcome.bind_eq_ok_iff] at h
    obtain ⟨blinded, hb, h⟩ := h
    rw [Run.outcome_bind, Run.outcome_note, Outcome.ok_bind, Run.outcome_pure] at h
    cases h
    obtain ⟨n, input, hn, hblind, hi, hm⟩ := Oprf.exists_blind hb
    rw [hblind] at hm
    exact ⟨Nat.not_lt.mp hl, n, input, hn, by rw [hblind], hi, hm⟩

theorem exists_start_encode {suite : CipherSuite} {E : Type} [AddCommGroup E] (I : suite.group.Interpretation E)
    {source : RandomSource} {password : Bytes} {started : Started}
    (h : (start suite source password).outcome = .ok started) :
    ∃ n P, ¬Scalar.order ∣ n ∧ P ≠ 0 ∧ started.state = { blind := Scalar.ofNat n, password := password } ∧
      Oprf.hashToGroup suite.group password = .ok (I.encode P) ∧
      started.request.blindedElement = I.encode (n • P) := by
  obtain ⟨_, n, input, hn, hstate, hi, hm⟩ := exists_start h
  obtain ⟨uniform, hu, hi'⟩ := Oprf.exists_hashToGroup suite.group password
  obtain ⟨P, hP⟩ := I.ofUniform_eq uniform hu
  rw [hi', hP] at hi
  rw [← Except.ok.inj hi] at hm
  have hne : P ≠ 0 := I.ne_zero_of_multiply hm
  rw [I.multiply_encode n P hn hne] at hm
  exact ⟨n, P, hn, hne, hstate, by rw [hi', hP], (Except.ok.inj hm).symm⟩

theorem finish_outcome (suite : CipherSuite) (blind password : Bytes) (response : RegistrationResponse) :
    (finish suite { blind := blind, password := password } response).2.outcome =
      Oprf.finalize suite.group password blind response.evaluatedElement >>= fun output =>
        (complete suite output response.serverPublicKey).outcome := by
  simp only [finish, useOnce, ClientState.consume, Bool.false_eq_true, if_false]
  rw [Run.outcome_bind, Run.outcome_lift]

def keysOf (p : Argon2.Parameters) (output : Bytes) : Envelope.Keys :=
  Envelope.Keys.derive (Envelope.randomizePassword output (Argon2.digest p output SlowHash.salt))

def finishedOf (keys : Envelope.Keys) (serverPublicKey : Bytes) (pair : KeyPair) : Finished :=
  ⟨⟨Envelope.create keys serverPublicKey pair.publicKey, pair.publicKey⟩, keys.exportKey⟩

theorem complete_outcome (suite : CipherSuite) (output serverPublicKey : Bytes)
    (hl : output.length = SlowHash.inputSize) (hp : suite.slowHash.fault? = none) :
    (complete suite output serverPublicKey).outcome =
      (KeyPair.derive suite.group (keysOf suite.slowHash output).seed KeyPair.defaultInfo).outcome >>= fun pair =>
        .ok (finishedOf (keysOf suite.slowHash output) serverPublicKey pair) := by
  rw [complete, Run.outcome_bind, Run.outcome_lift_slowHash, SlowHash.hash_eq _ _ hl hp, Outcome.mapError_ok,
    Outcome.ok_bind]
  rw [Run.outcome_bind]
  rfl

theorem complete_outcome_of_fault (suite : CipherSuite) (output serverPublicKey : Bytes)
    (hl : output.length = SlowHash.inputSize) (fault : Argon2.Fault) (hp : suite.slowHash.fault? = some fault) :
    (complete suite output serverPublicKey).outcome = .error (.slowHash (.parameters fault)) := by
  rw [complete, Run.outcome_bind, Run.outcome_lift_slowHash, SlowHash.hash_eq_error _ _ hl fault hp,
    Outcome.mapError_error, Outcome.error_bind]

theorem exists_of_complete {suite : CipherSuite} {output serverPublicKey : Bytes} {finished : Finished}
    (h : (complete suite output serverPublicKey).outcome = .ok finished) :
    ∃ secret pair,
      (KeyPair.derive suite.group (Envelope.Keys.derive secret).seed KeyPair.defaultInfo).outcome = .ok pair ∧
        finished = finishedOf (Envelope.Keys.derive secret) serverPublicKey pair := by
  rw [complete, Run.outcome_bind, Outcome.bind_eq_ok_iff] at h
  obtain ⟨stretched, _, h⟩ := h
  rw [Run.outcome_bind, Outcome.bind_eq_ok_iff] at h
  obtain ⟨pair, hpair, h⟩ := h
  exact ⟨_, pair, hpair, (Except.ok.inj h).symm⟩

theorem exists_of_finish {suite : CipherSuite} {state : ClientState} {response : RegistrationResponse}
    {finished : Finished} (h : (finish suite state response).2.outcome = .ok finished) :
    ∃ secret pair,
      (KeyPair.derive suite.group (Envelope.Keys.derive secret).seed KeyPair.defaultInfo).outcome = .ok pair ∧
        finished = finishedOf (Envelope.Keys.derive secret) response.serverPublicKey pair := by
  rcases state with ⟨blind, password, consumed⟩
  cases consumed with
  | true => cases h
  | false =>
      rw [finish_outcome, Outcome.bind_eq_ok_iff] at h
      obtain ⟨output, _, h⟩ := h
      exact exists_of_complete h

theorem envelope_length {suite : CipherSuite} {state : ClientState} {response : RegistrationResponse}
    {finished : Finished} (h : (finish suite state response).2.outcome = .ok finished) :
    finished.upload.envelope.length = Envelope.size := by
  obtain ⟨secret, pair, _, rfl⟩ := exists_of_finish h
  exact Envelope.create_derive_length secret response.serverPublicKey pair.publicKey

def outputOf (password element : Bytes) : Bytes :=
  Sha512.hash (Bytes.ofNatBE 2 password.length ++ password ++ Bytes.ofNatBE 2 PrimeGroup.elementSize ++ element ++
    Oprf.finalizeLabel)

/-- Under an interpretation, finishing with a canonical blind is what follows from the element without it. -/
theorem finish_encode {suite : CipherSuite} {E : Type} [AddCommGroup E] (I : suite.group.Interpretation E)
    (password serverPublicKey : Bytes) (hp : password.length ≤ ClientState.maxPassword) (n : Nat)
    (hn : ¬Scalar.order ∣ n) (P : E) (hP : P ≠ 0) :
    ∃ m, n * m % Scalar.order = 1 ∧
      (finish suite { blind := Scalar.ofNat n, password := password } ⟨I.encode P, serverPublicKey⟩).2.outcome =
        (complete suite (outputOf password (I.encode (m • P))) serverPublicKey).outcome := by
  obtain ⟨m, hm, hf⟩ := Oprf.finalize_encode I password hp n hn P hP
  refine ⟨m, hm, ?_⟩
  rw [finish_outcome, hf, Outcome.ok_bind]
  rfl

end Client

end PakeRegistration
