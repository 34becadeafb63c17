import PakeRegistration.Host
import PakeRegistration.Proofs.KeySearch
import PakeRegistration.Proofs.Message

namespace PakeRegistration

open Outcome

theorem Client.exists_state {suite : CipherSuite} {source : RandomSource} {password : Bytes} {started : Started}
    (h : (start suite source password).outcome = .ok started) :
    password.length ≤ ClientState.maxPassword ∧ started.state.password = password ∧
      ∃ data, started.state.encode = .ok data ∧ ClientState.decode data = .ok started.state := by
  obtain ⟨hl, n, _, hn, hstate, _⟩ := exists_start h
  rw [hstate]
  exact ⟨hl, rfl, ClientState.decode_encode n hn password hl⟩

namespace Host

theorem start_outcome (suite : CipherSuite) (source : RandomSource) (password : Password) :
    (start suite source password).outcome =
      password.toOctets >>= fun octets =>
        (Client.start suite source octets).outcome >>= fun started =>
          started.state.encode >>= fun state => .ok ⟨started, started.request.encode, state⟩ := by
  simp only [start, Run.outcome_bind, Run.outcome_lift]
  rfl

theorem start_of_octets {suite : CipherSuite} {source : RandomSource} {p : Password} {octets state : Bytes}
    {started : Client.Started} (hp : p.toOctets = .ok octets)
    (hs : (Client.start suite source octets).outcome = .ok started) (he : started.state.encode = .ok state) :
    (start suite source p).outcome = .ok ⟨started, started.request.encode, state⟩ := by
  rw [start_outcome, hp, ok_bind, hs, ok_bind, he, ok_bind]

theorem finish_outcome (suite : CipherSuite) (state response : Bytes) :
    (finish suite state response).outcome =
      (ClientState.decode state).mapError .decode >>= fun t =>
        (RegistrationResponse.decode suite.group response).mapError .decode >>= fun m =>
          (Client.finish suite t m).2.outcome >>= fun finished =>
            finished.upload.encode.mapError .range >>= fun upload => .ok ⟨finished, upload⟩ := by
  simp only [finish, Run.outcome_bind, Run.outcome_lift_decode]
  rfl

theorem exists_output {suite : CipherSuite} {E : Type} [AddCommGroup E] (I : suite.group.Interpretation E)
    {state response : Bytes} {t : ClientState} {m : RegistrationResponse} (ht : ClientState.decode state = .ok t)
    (hm : RegistrationResponse.decode suite.group response = .ok m) :
    ∃ output, output.length = SlowHash.inputSize ∧
      Oprf.finalize suite.group t.password t.blind m.evaluatedElement = .ok output ∧
      (Client.finish suite t m).2.outcome = (Client.complete suite output m.serverPublicKey).outcome := by
  obtain ⟨n, hn, hstate, hp⟩ := ClientState.exists_of_decode ht
  obtain ⟨_, ⟨_, hv⟩, _⟩ := RegistrationResponse.exists_of_decode hm
  obtain ⟨_, P, hP, helement⟩ := I.exists_encode_of_validate hv
  obtain ⟨k, _, hf⟩ := Oprf.finalize_encode I t.password hp n hn P hP
  refine ⟨Client.outputOf t.password (I.encode (k • P)), Sha512.hash_length _, ?_, ?_⟩
  · rw [hstate, helement]
    exact hf
  · rw [hstate, Client.finish_outcome, helement, hf, ok_bind]
    rfl

theorem finish_of_decode {suite : CipherSuite} {E : Type} [AddCommGroup E] (I : suite.group.Interpretation E)
    {state response : Bytes} {t : ClientState} {m : RegistrationResponse} (ht : ClientState.decode state = .ok t)
    (hm : RegistrationResponse.decode suite.group response = .ok m) :
    ∃ output, Oprf.finalize suite.group t.password t.blind m.evaluatedElement = .ok output ∧
      (∀ fault, suite.slowHash.fault? = some fault →
        (finish suite state response).outcome = .error (.slowHash (.parameters fault))) ∧
      (suite.slowHash.fault? = none →
        (KeyPair.Derivable (Client.keysOf suite.slowHash output).seed KeyPair.defaultInfo →
          ∃ handle, (finish suite state response).outcome = .ok handle ∧ handle.upload.length = 130 ∧
            handle.result.exportKey.length = 64) ∧
        (¬KeyPair.Derivable (Client.keysOf suite.slowHash output).seed KeyPair.defaultInfo →
          (finish suite state response).outcome = .error (.protocol .keyPairExhausted))) := by
  obtain ⟨output, hl, hf, hfinish⟩ := exists_output I ht hm
  have ho : (finish suite state response).outcome =
      (Client.complete suite output m.serverPublicKey).outcome >>= fun finished =>
        finished.upload.encode.mapError .range >>= fun upload => .ok ⟨finished, upload⟩ := by
    rw [finish_outcome, ht, hm, mapError_ok, ok_bind, mapError_ok, ok_bind, hfinish]
  refine ⟨output, hf, ?_, ?_⟩
  · intro fault hfault
    rw [ho, Client.complete_outcome_of_fault suite output _ hl fault hfault, error_bind]
  · intro hnone
    rw [Client.complete_outcome suite output _ hl hnone] at ho
    refine ⟨?_, ?_⟩
    · intro hd
      obtain ⟨n, _, hpair⟩ := KeyPair.derive_of_derivable I _ KeyPair.defaultInfo (by decide) hd
      have hsize : (Client.finishedOf (Client.keysOf suite.slowHash output) m.serverPublicKey
          ⟨Scalar.ofNat n, I.encode (n • I.generator)⟩).upload.envelope.length = Envelope.size :=
        Envelope.create_derive_length _ _ _
      rw [hpair, ok_bind, ok_bind, RegistrationUpload.encode_of_length hsize, mapError_ok, ok_bind] at ho
      refine ⟨_, ho, ?_, ?_⟩
      · have hpublic := I.encode_length (n • I.generator)
        simp only [List.length_append, Bytes.ofNatBE_length, hsize]
        rw [Client.finishedOf, hpublic]
        rfl
      · exact Hkdf.stream_length _ _ _
    · intro hd
      rw [KeyPair.derive_of_not_derivable _ KeyPair.defaultInfo (by decide) hd, error_bind, error_bind] at ho
      exact ho

theorem exists_of_finish {suite : CipherSuite} {state response : Bytes} {handle : FinishHandle}
    (h : (finish suite state response).outcome = .ok handle) :
    ∃ t m, (Client.finish suite t m).2.outcome = .ok handle.result ∧
      handle.result.upload.encode = .ok handle.upload := by
  rw [finish_outcome, bind_eq_ok_iff] at h
  obtain ⟨t, _, h⟩ := h
  rw [bind_eq_ok_iff] at h
  obtain ⟨m, _, h⟩ := h
  rw [bind_eq_ok_iff] at h
  obtain ⟨finished, hfinished, h⟩ := h
  rw [bind_eq_ok_iff] at h
  obtain ⟨upload, hupload, h⟩ := h
  rw [mapError_eq_ok_iff] at hupload
  cases h
  exact ⟨t, m, hfinished, hupload⟩

/-- Every end of a registration from octets, in the order in which they are decided: the state or the response is not
decoded, the costs of the slow hash are refused, or there is an upload of 130 octets with an export key of 64, unless
all 256 scalars of the seed's key pair are zero. -/
theorem finish_classified (suite : CipherSuite) (hG : suite.group.Lawful) (state response : Bytes) :
    (∀ e, ClientState.decode state = .error e → (finish suite state response).outcome = .error (.decode e)) ∧
      ∀ t, ClientState.decode state = .ok t →
        (∀ e, RegistrationResponse.decode suite.group response = .error e →
          (finish suite state response).outcome = .error (.decode e)) ∧
        ∀ m, RegistrationResponse.decode suite.group response = .ok m →
          ∃ output, Oprf.finalize suite.group t.password t.blind m.evaluatedElement = .ok output ∧
            (∀ fault, suite.slowHash.fault? = some fault →
              (finish suite state response).outcome = .error (.slowHash (.parameters fault))) ∧
            (suite.slowHash.fault? = none →
              (KeyPair.Derivable (Client.keysOf suite.slowHash output).seed KeyPair.defaultInfo →
                ∃ handle, (finish suite state response).outcome = .ok handle ∧ handle.upload.length = 130 ∧
                  handle.result.exportKey.length = 64) ∧
              (¬KeyPair.Derivable (Client.keysOf suite.slowHash output).seed KeyPair.defaultInfo →
                (finish suite state response).outcome = .error (.protocol .keyPairExhausted))) := by
  obtain ⟨E, _, ⟨I⟩⟩ := hG
  refine ⟨?_, ?_⟩
  · intro e he
    rw [finish_outcome, he, mapError_error, error_bind]
  · intro t ht
    refine ⟨?_, fun m hm => finish_of_decode I ht hm⟩
    intro e he
    rw [finish_outcome, ht, mapError_ok, ok_bind, he, mapError_error, error_bind]

def sampleState : Bytes := [1] ++ Scalar.ofNat 2 ++ [0, 0, 0, 2] ++ Bytes.ascii "pw"

def sampleRefusal : CipherSuite := ⟨Residues.sample, { memoryCost := 8, timeCost := 0 }⟩

theorem finish_classified_sample :
    Residues.sampleSuite.group.Lawful ∧
      (∃ handle, (finish Residues.sampleSuite sampleState
          (Residues.sampleEvaluated ++ Ristretto255.generatorOctets)).outcome = .ok handle ∧
        handle.upload.length = 130 ∧ handle.result.exportKey.length = 64) ∧
      (finish sampleRefusal sampleState (Residues.sampleEvaluated ++ Ristretto255.generatorOctets)).outcome =
        .error (.slowHash (.parameters .timeTooSmall)) := by
  have ht : ClientState.decode sampleState = .ok Residues.sampleStarted.state := by decide +kernel
  have hm : RegistrationResponse.decode Residues.sample
      (Residues.sampleEvaluated ++ Ristretto255.generatorOctets) =
        .ok ⟨Residues.sampleEvaluated, Ristretto255.generatorOctets⟩ := by
    decide +kernel
  have hclassified := finish_classified Residues.sampleSuite Residues.sample_lawful sampleState
    (Residues.sampleEvaluated ++ Ristretto255.generatorOctets)
  obtain ⟨output, ho, _, hsuccess⟩ := (hclassified.2 _ ht).2 _ hm
  obtain rfl : output = KeyPair.sampleOutput := Except.ok.inj (ho.symm.trans KeyPair.finalize_sample)
  have hclassified' := finish_classified sampleRefusal Residues.sample_lawful sampleState
    (Residues.sampleEvaluated ++ Ristretto255.generatorOctets)
  obtain ⟨_, _, hrefusal, _⟩ := (hclassified'.2 _ ht).2 _ hm
  exact ⟨Residues.sample_lawful, (hsuccess (by decide)).1 KeyPair.derivable_sampleOutput, hrefusal _ (by decide)⟩

end Host

end PakeRegistration
