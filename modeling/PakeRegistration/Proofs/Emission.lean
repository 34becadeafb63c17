import PakeRegistration.Proofs.KeySearch
import PakeRegistration.Proofs.Message

namespace PakeRegistration

open Outcome

namespace Client

theorem exportKey_length {suite : CipherSuite} {state : ClientState} {response : RegistrationResponse}
    {finished : Finished} (h : (finish suite state response).2.outcome = .ok finished) :
    finished.exportKey.length = 64 := by
  obtain ⟨secret, pair, _, rfl⟩ := exists_of_finish h
  exact Hkdf.stream_length _ _ _

section Interpreted

variable {suite : CipherSuite} {E : Type} [AddCommGroup E] (I : suite.group.Interpretation E)

include I

theorem accepts_blindedElement {source : RandomSource} {password : Bytes} {started : Started}
    (h : (start suite source password).outcome = .ok started) :
    suite.group.Accepts started.request.blindedElement := by
  obtain ⟨n, P, hn, hP, _, _, hrequest⟩ := exists_start_encode I h
  rw [hrequest]
  exact I.accepts_encode (n • P) (I.nsmul_ne_zero hn hP)

theorem accepts_clientPublicKey {state : ClientState} {response : RegistrationResponse} {finished : Finished}
    (h : (finish suite state response).2.outcome = .ok finished) :
    suite.group.Accepts finished.upload.clientPublicKey := by
  obtain ⟨secret, pair, hpair, rfl⟩ := exists_of_finish h
  obtain ⟨n, hn, rfl⟩ := KeyPair.exists_of_derive I (by decide) hpair
  exact I.accepts_encode (n • I.generator) (I.nsmul_ne_zero hn I.generator_ne_zero)

theorem decode_upload {state : ClientState} {response : RegistrationResponse} {finished : Finished}
    (h : (finish suite state response).2.outcome = .ok finished) :
    ∃ octets, finished.upload.encode = .ok octets ∧ octets.length = 130 ∧
      RegistrationUpload.decode suite.group octets = .ok finished.upload := by
  have hkey := accepts_clientPublicKey I h
  have hsize := envelope_length h
  have hencode := RegistrationUpload.encode_of_length hsize
  refine ⟨_, hencode, ?_, RegistrationUpload.decode_eq_ok_iff.mpr ⟨hencode, hsize, hkey⟩⟩
  rw [List.length_append, List.length_append, Bytes.ofNatBE_length, hsize, hkey.1]
  rfl

theorem exists_finished {blind password evaluated output : Bytes} (hp : suite.slowHash.fault? = none)
    (hf : Oprf.finalize suite.group password blind evaluated = .ok output)
    (hd : KeyPair.Derivable (keysOf suite.slowHash output).seed KeyPair.defaultInfo) (serverPublicKey : Bytes) :
    ∃ finished, (finish suite { blind := blind, password := password } ⟨evaluated, serverPublicKey⟩).2.outcome =
      .ok finished := by
  obtain ⟨n, _, hpair⟩ := KeyPair.derive_of_derivable I _ KeyPair.defaultInfo (by decide) hd
  rw [finish_outcome, hf, ok_bind, complete_outcome suite output serverPublicKey (Oprf.finalize_length hf) hp, hpair]
  exact ⟨_, rfl⟩

end Interpreted

/-- Everything that a client hands out is accepted as it was: the request and the state of a registration that starts,
which is unmarked, and the upload of one that ends in a result. Nothing is asked of the state or the response that the
end was made from. -/
theorem emitted_decodes (suite : CipherSuite) (hG : suite.group.Lawful) :
    (∀ source password started, (start suite source password).outcome = .ok started →
      RegistrationRequest.decode suite.group started.request.encode = .ok started.request ∧
        started.state.password = password ∧ started.state.consumed = false ∧
        ∃ octets, started.state.encode = .ok octets ∧ ClientState.decode octets = .ok started.state) ∧
      ∀ state response finished, (finish suite state response).2.outcome = .ok finished →
        finished.exportKey.length = 64 ∧
          ∃ octets, finished.upload.encode = .ok octets ∧ octets.length = 130 ∧
            RegistrationUpload.decode suite.group octets = .ok finished.upload := by
  obtain ⟨E, _, ⟨I⟩⟩ := hG
  refine ⟨fun source password started h => ?_, fun state response finished h => ?_⟩
  · obtain ⟨hl, n, _, hn, hstate, _, _⟩ := exists_start h
    have hrequest := RegistrationRequest.decode_eq_ok_iff.mpr ⟨rfl, accepts_blindedElement I h⟩
    rw [hstate]
    exact ⟨hrequest, rfl, rfl, ClientState.decode_encode n hn password hl⟩
  · exact ⟨exportKey_length h, decode_upload I h⟩

/-- A state whose blind stands for two but is not canonical, so that its octets are refused. -/
def sampleUnreduced : ClientState :=
  { blind := Bytes.ofNatLE 32 (Scalar.order + 2), password := Bytes.ascii "pw" }

theorem emitted_decodes_sample :
    Residues.sampleSuite.group.Lawful ∧
      (start Residues.sampleSuite Residues.sampleSource (Bytes.ascii "pw")).outcome = .ok Residues.sampleStarted ∧
      RegistrationRequest.decode Residues.sample Residues.sampleBlinded = .ok ⟨Residues.sampleBlinded⟩ ∧
      (∃ octets, Residues.sampleStarted.state.encode = .ok octets ∧
        ClientState.decode octets = .ok Residues.sampleStarted.state) ∧
      (∃ octets, sampleUnreduced.encode = .ok octets ∧
        ClientState.decode octets = .error (.unreducedScalar "blinding scalar")) ∧
      ∃ finished octets, (finish Residues.sampleSuite sampleUnreduced ⟨Residues.sampleEvaluated, []⟩).2.outcome =
          .ok finished ∧
        finished.exportKey.length = 64 ∧ finished.upload.encode = .ok octets ∧ octets.length = 130 ∧
        RegistrationUpload.decode Residues.sample octets = .ok finished.upload := by
  have hs : (start Residues.sampleSuite Residues.sampleSource (Bytes.ascii "pw")).outcome =
      .ok Residues.sampleStarted := by
    decide +kernel
  have hrefused : ∃ octets, sampleUnreduced.encode = .ok octets ∧
      ClientState.decode octets = .error (.unreducedScalar "blinding scalar") :=
    ⟨_, rfl, by decide +kernel⟩
  obtain ⟨hstart, hfinish⟩ := emitted_decodes Residues.sampleSuite Residues.sample_lawful
  obtain ⟨hrequest, _, _, hstate⟩ := hstart _ _ _ hs
  -- the blind comes off like that of the sample registration, for both stand for two
  have hf : Oprf.finalize Residues.sample sampleUnreduced.password sampleUnreduced.blind Residues.sampleEvaluated =
      .ok KeyPair.sampleOutput := by
    decide +kernel
  obtain ⟨E, _, ⟨I⟩⟩ : Residues.sampleSuite.group.Lawful := Residues.sample_lawful
  obtain ⟨finished, ho⟩ := exists_finished I rfl hf KeyPair.derivable_sampleOutput []
  obtain ⟨hkey, octets, hencode, hl, hdecode⟩ := hfinish _ _ _ ho
  exact ⟨Residues.sample_lawful, hs, hrequest, hstate, hrefused, finished, octets, ho, hkey, hencode, hl, hdecode⟩

end Client

end PakeRegistration
