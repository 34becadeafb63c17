import PakeRegistration.Proofs.KeySearch

namespace PakeRegistration.Unblinded

def keys (suite : CipherSuite) (key password : Bytes) : Except Error Envelope.Keys := do
  let input ← Oprf.hashToGroup suite.group password
  let element ← suite.group.multiply key input
  let output := Sha512.hash <|
    Bytes.ofNatBE 2 password.length ++ password ++ Bytes.ofNatBE 2 32 ++ element ++ Bytes.ascii "Finalize"
  let stretched ← SlowHash.hash suite.slowHash output
  let secret := Hkdf.extract [] (output ++ stretched)
  let nonce ← Hkdf.expand secret (Bytes.ascii "EnvelopeNonce") 32
  let authKey ← Hkdf.expand secret (nonce ++ Bytes.ascii "AuthKey") 64
  let exportKey ← Hkdf.expand secret (nonce ++ Bytes.ascii "ExportKey") 64
  let seed ← Hkdf.expand secret (nonce ++ Bytes.ascii "PrivateKey") 32
  return { nonce, authKey, exportKey, seed }

def finish (suite : CipherSuite) (key serverPublicKey password : Bytes) : Except Error Client.Finished := do
  let keys ← keys suite key password
  let pair ← (KeyPair.derive suite.group keys.seed KeyPair.defaultInfo).outcome
  let tag := Hmac.mac keys.authKey (keys.nonce ++ serverPublicKey ++ pair.publicKey)
  return ⟨⟨keys.nonce ++ tag, pair.publicKey⟩, keys.exportKey⟩

theorem expand_natCast (key label : Bytes) (length : Nat) (h : length ≤ Hkdf.maxLength) :
    Hkdf.expand key label length = .ok (Hkdf.stream key label length) := by
  have hmax : ¬(Hkdf.maxLength : Int) < length := by omega
  have hhuge : ¬(0x10000000000000000 : Int) ≤ length := by
    have : Hkdf.maxLength = 16320 := rfl
    omega
  rw [Hkdf.expand, if_neg (by omega), if_neg hhuge, if_neg hmax, Int.toNat_natCast]

theorem keys_eq (suite : CipherSuite) (key password input element : Bytes)
    (hi : Oprf.hashToGroup suite.group password = .ok input) (he : suite.group.multiply key input = .ok element)
    (hp : suite.slowHash.fault? = none) :
    keys suite key password = .ok (Client.keysOf suite.slowHash (Client.outputOf password element)) := by
  have hs := SlowHash.hash_eq suite.slowHash (Client.outputOf password element) rfl hp
  have h32 (label key : Bytes) : Hkdf.expand key label 32 = .ok (Hkdf.stream key label 32) :=
    expand_natCast key label 32 (by decide)
  have h64 (label key : Bytes) : Hkdf.expand key label 64 = .ok (Hkdf.stream key label 64) :=
    expand_natCast key label 64 (by decide)
  rw [Client.outputOf, PrimeGroup.elementSize, Oprf.finalizeLabel] at hs
  simp only [keys, hi, he, hs, h32, h64, Outcome.lift_range, Outcome.lift_protocol, Outcome.lift_slowHash,
    Outcome.mapError_ok, Outcome.ok_bind, Outcome.pure_eq]
  rfl

theorem complete_eq_finish (suite : CipherSuite) (key serverPublicKey password input element : Bytes)
    (hi : Oprf.hashToGroup suite.group password = .ok input) (he : suite.group.multiply key input = .ok element)
    (hp : suite.slowHash.fault? = none) :
    (Client.complete suite (Client.outputOf password element) serverPublicKey).outcome =
      finish suite key serverPublicKey password := by
  rw [Client.complete_outcome suite _ serverPublicKey rfl hp, finish, keys_eq suite key password input element hi he hp,
    Outcome.ok_bind]
  rfl

theorem exists_finish {suite : CipherSuite} {E : Type} [AddCommGroup E] (I : suite.group.Interpretation E)
    (key serverPublicKey password : Bytes) (k : Envelope.Keys) (hk : keys suite key password = .ok k)
    (hd : KeyPair.Derivable k.seed KeyPair.defaultInfo) :
    ∃ finished, finish suite key serverPublicKey password = .ok finished := by
  obtain ⟨n, _, ho⟩ := KeyPair.derive_of_derivable I k.seed KeyPair.defaultInfo (by decide) hd
  rw [finish, hk, Outcome.ok_bind, ho, Outcome.ok_bind]
  exact ⟨_, rfl⟩

theorem finish_of_not_derivable (suite : CipherSuite) (key serverPublicKey password : Bytes) (k : Envelope.Keys)
    (hk : keys suite key password = .ok k) (hd : ¬KeyPair.Derivable k.seed KeyPair.defaultInfo) :
    finish suite key serverPublicKey password = .error (.protocol .keyPairExhausted) := by
  have ho := KeyPair.derive_of_not_derivable (G := suite.group) k.seed KeyPair.defaultInfo (by decide) hd
  rw [finish, hk, Outcome.ok_bind, ho, Outcome.error_bind]

theorem exists_evaluated {suite : CipherSuite} {E : Type} [AddCommGroup E] (I : suite.group.Interpretation E)
    (hp : suite.slowHash.fault? = none) {source : RandomSource} {password : Bytes} {started : Client.Started}
    (hs : (Client.start suite source password).outcome = .ok started)
    {key : Bytes} {field : Text} (hk : Scalar.validate key field = .ok key) (serverPublicKey : Bytes) :
    ∃ evaluated input element,
      suite.group.multiply key started.request.blindedElement = .ok evaluated ∧
      Oprf.hashToGroup suite.group password = .ok input ∧ suite.group.multiply key input = .ok element ∧
      (Client.finish suite started.state ⟨evaluated, serverPublicKey⟩).2.outcome =
        finish suite key serverPublicKey password := by
  obtain ⟨hl, _⟩ := Client.exists_start hs
  obtain ⟨n, P, hn, hne, hstate, hi, hrequest⟩ := Client.exists_start_encode I hs
  obtain ⟨_, k, hkd, rfl⟩ := Scalar.exists_ofNat_of_validate hk
  have hnP : n • P ≠ 0 := I.nsmul_ne_zero hn hne
  have hknP : k • n • P ≠ 0 := I.nsmul_ne_zero hkd hnP
  have helement := I.multiply_encode k P hkd hne
  obtain ⟨m, hm, hf⟩ := Client.finish_encode I password serverPublicKey hl n hn (k • n • P) hknP
  -- the multiples commute, so the blind comes off although the server's key was put on after it
  have hcancel : m • k • n • P = k • P := by
    rw [smul_comm m k, I.nsmul_inverse_cancel m n P hm]
  refine ⟨I.encode (k • n • P), I.encode P, I.encode (k • P), ?_, hi, helement, ?_⟩
  · rw [hrequest]
    exact I.multiply_encode k (n • P) hkd hnP
  · rw [hstate, hf, hcancel]
    exact complete_eq_finish suite (Scalar.ofNat k) serverPublicKey password _ _ hi helement hp

/-- Whatever the source gave and however many draws were thrown away, a registration that has started against a
server's key ends as it would without a blind, so two of them end alike. It ends in a result unless all 256 scalars
of the seed's key pair are zero. -/
theorem finish_eq_unblinded (suite : CipherSuite) (hG : suite.group.Lawful) (hp : suite.slowHash.fault? = none)
    (source : RandomSource) (password : Bytes) (started : Client.Started)
    (hs : (Client.start suite source password).outcome = .ok started)
    (key serverPublicKey : Bytes) (field : Text) (hk : Scalar.validate key field = .ok key) :
    ∃ evaluated keys,
      suite.group.multiply key started.request.blindedElement = .ok evaluated ∧
      Unblinded.keys suite key password = .ok keys ∧
      (Client.finish suite started.state ⟨evaluated, serverPublicKey⟩).2.outcome =
        Unblinded.finish suite key serverPublicKey password ∧
      (KeyPair.Derivable keys.seed KeyPair.defaultInfo →
        ∃ finished, (Client.finish suite started.state ⟨evaluated, serverPublicKey⟩).2.outcome = .ok finished) ∧
      (¬KeyPair.Derivable keys.seed KeyPair.defaultInfo →
        (Client.finish suite started.state ⟨evaluated, serverPublicKey⟩).2.outcome =
          .error (.protocol .keyPairExhausted)) ∧
      ∀ (source' : RandomSource) (started' : Client.Started) (evaluated' : Bytes),
        (Client.start suite source' password).outcome = .ok started' →
        suite.group.multiply key started'.request.blindedElement = .ok evaluated' →
        (Client.finish suite started'.state ⟨evaluated', serverPublicKey⟩).2.outcome =
          (Client.finish suite started.state ⟨evaluated, serverPublicKey⟩).2.outcome := by
  obtain ⟨E, _, ⟨I⟩⟩ := hG
  obtain ⟨evaluated, input, element, hm, hi, he, hf⟩ := exists_evaluated I hp hs hk serverPublicKey
  have hkeys := keys_eq suite key password input element hi he hp
  refine ⟨evaluated, _, hm, hkeys, hf, ?_, ?_, ?_⟩
  · intro hd
    rw [hf]
    exact exists_finish I key serverPublicKey password _ hkeys hd
  · intro hd
    rw [hf]
    exact finish_of_not_derivable suite key serverPublicKey password _ hkeys hd
  intro source' started' evaluated' hs' hm'
  obtain ⟨other, _, _, hm'', _, _, hf'⟩ := exists_evaluated I hp hs' hk serverPublicKey
  have heq : evaluated' = other := by
    rw [hm'] at hm''
    exact Except.ok.inj hm''
  rw [heq, hf', hf]

theorem finish_eq_unblinded_sample :
    Residues.sampleSuite.group.Lawful ∧ Residues.sampleSuite.slowHash.fault? = none ∧
      (Client.start Residues.sampleSuite Residues.sampleSource (Bytes.ascii "pw")).outcome =
        .ok Residues.sampleStarted ∧
      Scalar.validate (Scalar.ofNat 3) "scalar" = .ok (Scalar.ofNat 3) ∧
      ∃ evaluated finished,
        Residues.sampleSuite.group.multiply (Scalar.ofNat 3) Residues.sampleBlinded = .ok evaluated ∧
        (Client.finish Residues.sampleSuite Residues.sampleStarted.state
            ⟨evaluated, Ristretto255.generatorOctets⟩).2.outcome = .ok finished ∧
        Unblinded.finish Residues.sampleSuite (Scalar.ofNat 3) Ristretto255.generatorOctets (Bytes.ascii "pw") =
          .ok finished := by
  have hp : Residues.sampleSuite.slowHash.fault? = none := by decide
  have hs : (Client.start Residues.sampleSuite Residues.sampleSource (Bytes.ascii "pw")).outcome =
      .ok Residues.sampleStarted := by
    decide +kernel
  have hk : Scalar.validate (Scalar.ofNat 3) "scalar" = .ok (Scalar.ofNat 3) := by decide +kernel
  obtain ⟨evaluated, keys, hm, hkeys, hf, hd, _⟩ :=
    finish_eq_unblinded Residues.sampleSuite Residues.sample_lawful hp Residues.sampleSource (Bytes.ascii "pw")
      Residues.sampleStarted hs (Scalar.ofNat 3) Ristretto255.generatorOctets "scalar" hk
  have hsample : Unblinded.keys Residues.sampleSuite (Scalar.ofNat 3) (Bytes.ascii "pw") =
      .ok (Client.keysOf Residues.sampleSuite.slowHash KeyPair.sampleOutput) :=
    keys_eq Residues.sampleSuite (Scalar.ofNat 3) (Bytes.ascii "pw") Residues.sampleInput Residues.sampleElement
      (by decide +kernel) (by decide +kernel) hp
  obtain rfl := Except.ok.inj (hkeys.symm.trans hsample)
  obtain ⟨finished, hfinished⟩ := hd KeyPair.derivable_sampleOutput
  exact ⟨Residues.sample_lawful, hp, hs, hk, evaluated, finished, hm, hfinished, hf.symm.trans hfinished⟩

end PakeRegistration.Unblinded
