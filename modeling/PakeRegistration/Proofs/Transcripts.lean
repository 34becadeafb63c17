import Mathlib.Data.List.Nodup
import PakeRegistration.Envelope
import PakeRegistration.Proofs.Expansion
import PakeRegistration.Proofs.Fields
import PakeRegistration.Proofs.KeyPair

/-!
Everything that is hashed can be taken apart again. Fields of free length are found by the length in front of them or
behind them, all others by their width. Main statement: no two inputs of the oblivious function, of a key pair, of an
expansion, of an envelope or of its keys are hashed alike.
-/

namespace PakeRegistration

open Outcome

namespace Bytes

variable {width : Nat} {a b rest rest' : Bytes}

theorem eq_of_prefixed (ha : a.length < capacity width) (hb : b.length < capacity width)
    (h : ofNatBE width a.length ++ (a ++ rest) = ofNatBE width b.length ++ (b ++ rest')) : a = b ∧ rest = rest' := by
  obtain ⟨hlength, hrest⟩ := List.append_inj h (by simp)
  exact List.append_inj hrest (ofNatBE_injective ha hb hlength)

theorem eq_of_suffixed (ha : a.length < capacity width) (hb : b.length < capacity width)
    (h : rest ++ (a ++ ofNatBE width a.length) = rest' ++ (b ++ ofNatBE width b.length)) : rest = rest' ∧ a = b := by
  rw [← List.append_assoc, ← List.append_assoc] at h
  obtain ⟨hrest, hlength⟩ := List.append_inj' h (by simp)
  exact List.append_inj' hrest (ofNatBE_injective ha hb hlength)

end Bytes

theorem Oprf.transcript_injective {password element password' element' octets : Bytes}
    (hp : password.length ≤ 65535) (he : element.length ≤ 65535) (hp' : password'.length ≤ 65535)
    (he' : element'.length ≤ 65535) (h : transcript password element = .ok octets)
    (h' : transcript password' element' = .ok octets) : password = password' ∧ element = element' := by
  have hcapacity : Bytes.capacity 2 = 65536 := by decide
  rw [transcript_eq password element hp he] at h
  rw [transcript_eq password' element' hp' he', ← Except.ok.inj h] at h'
  have heq := Except.ok.inj h'
  simp only [List.append_assoc] at heq
  obtain ⟨rfl, hrest⟩ := Bytes.eq_of_prefixed (by omega) (by omega) heq
  obtain ⟨rfl, -⟩ := Bytes.eq_of_prefixed (by omega) (by omega) hrest
  exact ⟨rfl, rfl⟩

theorem Oprf.finalize_eq_ok_iff (G : PrimeGroup) (password blind evaluated output : Bytes) :
    finalize G password blind evaluated = .ok output ↔
      ∃ inverse element octets, Scalar.invert blind = .ok inverse ∧ G.multiply inverse evaluated = .ok element ∧
        transcript password element = .ok octets ∧ output = Sha512.hash octets := by
  simp only [finalize, bind_eq_ok_iff, lift_protocol, lift_range, mapError_eq_ok_iff, pure_eq, Except.ok.injEq]
  constructor
  · rintro ⟨inverse, hi, element, he, octets, ho, rfl⟩
    exact ⟨inverse, element, octets, hi, he, ho, rfl⟩
  · rintro ⟨inverse, element, octets, hi, he, ho, rfl⟩
    exact ⟨inverse, hi, element, he, octets, ho, rfl⟩

namespace KeyPair

theorem candidate_eq {seed info : Bytes} {counter : Nat} (hi : info.length ≤ 65535) (hc : counter < 256) :
    (input seed info >>= fun octets => candidateInput octets counter) =
      .ok (seed ++ Bytes.ofNatBE 2 info.length ++ info ++ Bytes.ofNatBE 1 counter) := by
  rw [input_eq seed info hi, ok_bind, candidateInput_eq _ counter hc, seedInput]

theorem candidate_injective {seed info seed' info' octets : Bytes} {counter counter' : Nat} (hs : seed.length = 32)
    (hi : info.length ≤ 65535) (hc : counter < 256) (hs' : seed'.length = 32) (hi' : info'.length ≤ 65535)
    (hc' : counter' < 256)
    (h : (input seed info >>= fun octets => candidateInput octets counter) = .ok octets)
    (h' : (input seed' info' >>= fun octets => candidateInput octets counter') = .ok octets) :
    seed = seed' ∧ info = info' ∧ counter = counter' := by
  have hone : Bytes.capacity 1 = 256 := by decide
  have htwo : Bytes.capacity 2 = 65536 := by decide
  rw [candidate_eq hi hc] at h
  rw [candidate_eq hi' hc', ← Except.ok.inj h] at h'
  have heq := Except.ok.inj h'
  simp only [List.append_assoc] at heq
  obtain ⟨rfl, hrest⟩ := List.append_inj heq (by rw [hs, hs'])
  obtain ⟨rfl, hcounter⟩ := Bytes.eq_of_prefixed (by omega) (by omega) hrest
  exact ⟨rfl, rfl, (Bytes.ofNatBE_injective (by omega) (by omega) hcounter).symm⟩

theorem exists_candidate_of_derive {G : PrimeGroup} {seed info : Bytes} {pair : KeyPair}
    (h : (derive G seed info).outcome = .ok pair) :
    ∃ counter octets, counter < 256 ∧
      (input seed info >>= fun octets => candidateInput octets counter) = .ok octets ∧
      Scalar.hash octets Oprf.deriveKeyPairTag = .ok pair.privateKey := by
  rw [derive, Run.outcome_bind, Run.outcome_lift_range, bind_eq_ok_iff] at h
  obtain ⟨octets, hoctets, h⟩ := h
  rw [mapError_eq_ok_iff] at hoctets
  rw [Run.outcome_bind, bind_eq_ok_iff] at h
  obtain ⟨scalar, hscalar, h⟩ := h
  rw [Run.outcome_bind, bind_eq_ok_iff] at h
  obtain ⟨element, -, h⟩ := h
  obtain rfl : ⟨scalar, element⟩ = pair := Except.ok.inj h
  rcases firstScalar_outcome octets 0 counters (Nat.le_refl _) with ⟨c, n, _, hc, _, hn, ho⟩ | ⟨_, ho⟩
  · obtain rfl : Scalar.ofNat n = scalar := Except.ok.inj (ho.symm.trans hscalar)
    rw [Nat.zero_add] at hc
    exact ⟨c, _, hc, by rw [hoctets, ok_bind, candidateInput_eq octets c hc], hn⟩
  · rw [ho] at hscalar
    cases hscalar

end KeyPair

namespace Expander

def seedTranscript (message tag : Bytes) (length : Int) : Except RangeError Bytes := do
  let tagLength ← FixedWidth.encode tag.length 1
  let lengthOctets ← FixedWidth.encode length 2
  return seedInput message lengthOctets (tag ++ tagLength)

theorem seedTranscript_eq {message tag : Bytes} {length : Nat} (hl : length ≤ 16320) (ht : tag.length ≤ 255) :
    seedTranscript message tag length = .ok (firstInput message tag length) := by
  obtain ⟨htag, hlength, -⟩ := encode_of_bounds tag length (Int.natCast_nonneg length) (by omega) ht
  rw [seedTranscript, htag, hlength]
  rfl

/-- The expansion reads from the end: the tag by its length, then two octets, and the message is what is left. -/
theorem seedTranscript_injective {message tag message' tag' octets : Bytes} {length length' : Nat}
    (hl : length ≤ 16320) (ht : tag.length ≤ 255) (hl' : length' ≤ 16320) (ht' : tag'.length ≤ 255)
    (h : seedTranscript message tag length = .ok octets) (h' : seedTranscript message' tag' length' = .ok octets) :
    message = message' ∧ length = length' ∧ tag = tag' := by
  have hone : Bytes.capacity 1 = 256 := by decide
  have htwo : Bytes.capacity 2 = 65536 := by decide
  rw [seedTranscript_eq hl ht] at h
  rw [seedTranscript_eq hl' ht', ← Except.ok.inj h] at h'
  obtain ⟨hfront, htag⟩ := Bytes.eq_of_suffixed (by omega) (by omega) (Except.ok.inj h')
  simp only [List.append_assoc] at hfront
  obtain ⟨hmessage, hlength⟩ := List.append_inj' (List.append_cancel_left hfront) (by simp)
  obtain ⟨hlength, -⟩ := List.append_inj hlength (by simp)
  exact ⟨hmessage.symm, (Bytes.ofNatBE_injective (by omega) (by omega) hlength).symm, htag.symm⟩

theorem eq_of_linkInput {seed tag previous previous' : Bytes} {index index' : Nat} (hi : index < 256)
    (hi' : index' < 256) (hl : previous.length = previous'.length)
    (h : linkInput seed tag previous index = linkInput seed tag previous' index') : index = index' := by
  have hone : Bytes.capacity 1 = 256 := by decide
  simp only [linkInput, List.append_assoc, ← Bytes.ofNatBE_one] at h
  obtain ⟨-, hrest⟩ := List.append_inj h (by simp [Bytes.xor, hl])
  obtain ⟨hindex, -⟩ := List.append_inj hrest (by simp)
  exact Bytes.ofNatBE_injective (by omega) (by omega) hindex

theorem carried_length (message tag : Bytes) (length index : Nat) :
    (carried message tag length index).length = Sha512.digestSize := by
  cases index with
  | zero => exact Bytes.zeros_length _
  | succ index => exact Sha512.hash_length _

def inputs (message tag : Bytes) (length : Nat) : List Bytes :=
  (List.range' 1 ((length + 63) / 64)).map (input message tag length)

theorem inputs_nodup (message tag : Bytes) (length : Nat) (hl : length ≤ 16320) :
    (inputs message tag length).Nodup := by
  refine List.Nodup.map_on ?_ (List.nodup_range' 1)
  intro i hi j hj h
  rw [List.mem_range'_1] at hi hj
  obtain ⟨i, rfl⟩ := Nat.exists_eq_add_of_le' hi.1
  obtain ⟨j, rfl⟩ := Nat.exists_eq_add_of_le' hj.1
  rw [input_succ, input_succ] at h
  exact eq_of_linkInput (by omega) (by omega) (by rw [carried_length, carried_length]) h

theorem expand_eq_inputs (message tag : Bytes) (length : Nat) (hl : length ≤ 16320) (ht : tag.length ≤ 255) :
    expand message tag length = .ok (((inputs message tag length).flatMap Sha512.hash).take length) := by
  rw [expand_eq_digests message tag length hl ht, inputs, List.flatMap_map]
  rfl

end Expander

namespace Envelope

theorem transcript_injective {nonce serverKey clientKey nonce' serverKey' clientKey' : Bytes}
    (hn : nonce.length = nonce'.length) (hs : serverKey.length = serverKey'.length)
    (h : transcript nonce serverKey clientKey = transcript nonce' serverKey' clientKey') :
    nonce = nonce' ∧ serverKey = serverKey' ∧ clientKey = clientKey' := by
  simp only [transcript, List.append_assoc] at h
  obtain ⟨hnonce, hrest⟩ := List.append_inj h hn
  exact ⟨hnonce, List.append_inj hrest hs⟩

def labels (nonce : Bytes) : List Bytes :=
  [nonceLabel, nonce ++ authKeyLabel, nonce ++ exportKeyLabel, nonce ++ privateKeyLabel]

theorem labels_nodup (nonce : Bytes) (h : nonce.length = nonceSize) : (labels nonce).Nodup := by
  have hlengths : (labels nonce).map List.length = [13, 39, 41, 42] := by
    simp only [labels, List.map_cons, List.map_nil, List.length_append, h]
    rfl
  apply List.Nodup.of_map List.length
  rw [hlengths]
  decide

theorem derive_eq_labels (secret : Bytes) :
    let keys := Keys.derive secret
    [keys.nonce, keys.authKey, keys.exportKey, keys.seed] =
      List.zipWith (Hkdf.stream secret) (labels keys.nonce) [32, 64, 64, 32] := rfl

end Envelope

/-- Inputs that are permitted are all written, and no two of them alike. -/
structure Unambiguous {α : Type} (Permitted : α → Prop) (write : α → Except RangeError Bytes) : Prop where
  exists_octets (a : α) (h : Permitted a) : ∃ octets, write a = .ok octets
  eq_of_octets (a b : α) (octets : Bytes) (ha : Permitted a) (hb : Permitted b) (h : write a = .ok octets)
    (h' : write b = .ok octets) : a = b

theorem Oprf.transcript_unambiguous :
    Unambiguous (fun ((password, element) : Bytes × Bytes) => password.length ≤ 65535 ∧ element.length ≤ 65535)
      fun (password, element) => transcript password element := by
  constructor
  · rintro ⟨password, element⟩ ⟨hp, he⟩
    exact ⟨_, transcript_eq password element hp he⟩
  · rintro ⟨password, element⟩ ⟨password', element'⟩ octets ⟨hp, he⟩ ⟨hp', he'⟩ h h'
    obtain ⟨rfl, rfl⟩ := transcript_injective hp he hp' he' h h'
    rfl

theorem KeyPair.candidate_unambiguous :
    Unambiguous (fun ((seed, info, counter) : Bytes × Bytes × Nat) =>
        seed.length = 32 ∧ info.length ≤ 65535 ∧ counter < 256)
      fun (seed, info, counter) => input seed info >>= fun octets => candidateInput octets counter := by
  constructor
  · rintro ⟨seed, info, counter⟩ ⟨hs, hi, hc⟩
    exact ⟨_, candidate_eq hi hc⟩
  · rintro ⟨seed, info, counter⟩ ⟨seed', info', counter'⟩ octets ⟨hs, hi, hc⟩ ⟨hs', hi', hc'⟩ h h'
    obtain ⟨rfl, rfl, rfl⟩ := candidate_injective hs hi hc hs' hi' hc' h h'
    rfl

theorem Expander.seedTranscript_unambiguous :
    Unambiguous (fun ((_, length, tag) : Bytes × Nat × Bytes) => length ≤ 16320 ∧ tag.length ≤ 255)
      fun (message, length, tag) => seedTranscript message tag length := by
  constructor
  · rintro ⟨message, length, tag⟩ ⟨hl, ht⟩
    exact ⟨_, seedTranscript_eq hl ht⟩
  · rintro ⟨message, length, tag⟩ ⟨message', length', tag'⟩ octets ⟨hl, ht⟩ ⟨hl', ht'⟩ h h'
    obtain ⟨rfl, rfl, rfl⟩ := seedTranscript_injective hl ht hl' ht' h h'
    rfl

theorem Envelope.transcript_unambiguous :
    Unambiguous (fun ((nonce, serverKey, clientKey) : Bytes × Bytes × Bytes) =>
        nonce.length = 32 ∧ serverKey.length = 32 ∧ clientKey.length = 32)
      fun (nonce, serverKey, clientKey) => .ok (transcript nonce serverKey clientKey) := by
  constructor
  · rintro ⟨nonce, serverKey, clientKey⟩ _
    exact ⟨_, rfl⟩
  · rintro ⟨nonce, serverKey, clientKey⟩ ⟨nonce', serverKey', clientKey'⟩ octets ⟨hn, hs, -⟩ ⟨hn', hs', -⟩ h h'
    have heq := Except.ok.inj (h.trans h'.symm)
    obtain ⟨rfl, rfl, rfl⟩ := transcript_injective (hn.trans hn'.symm) (hs.trans hs'.symm) heq
    rfl

/-- No two inputs are hashed alike, in any of the five places: the output of the oblivious function, the scalar of a
counter, the seed of an expansion and the digests of one expansion among each other, the tag of an envelope, and the
keys that one secret is expanded to. -/
theorem transcripts_unambiguous :
    Unambiguous (fun ((password, element) : Bytes × Bytes) => password.length ≤ 65535 ∧ element.length ≤ 65535)
        (fun (password, element) => Oprf.transcript password element) ∧
      (∀ G password blind evaluated output, Oprf.finalize G password blind evaluated = .ok output ↔
        ∃ inverse element octets, Scalar.invert blind = .ok inverse ∧ G.multiply inverse evaluated = .ok element ∧
          Oprf.transcript password element = .ok octets ∧ output = Sha512.hash octets) ∧
      Unambiguous (fun ((seed, info, counter) : Bytes × Bytes × Nat) =>
          seed.length = 32 ∧ info.length ≤ 65535 ∧ counter < 256)
        (fun (seed, info, counter) =>
          KeyPair.input seed info >>= fun octets => KeyPair.candidateInput octets counter) ∧
      (∀ G seed info pair, (KeyPair.derive G seed info).outcome = .ok pair →
        ∃ counter octets, counter < 256 ∧
          (KeyPair.input seed info >>= fun octets => KeyPair.candidateInput octets counter) = .ok octets ∧
          Scalar.hash octets Oprf.deriveKeyPairTag = .ok pair.privateKey) ∧
      Unambiguous (fun ((_, length, tag) : Bytes × Nat × Bytes) => length ≤ 16320 ∧ tag.length ≤ 255)
        (fun (message, length, tag) => Expander.seedTranscript message tag length) ∧
      (∀ message tag (length : Nat), length ≤ 16320 → tag.length ≤ 255 →
        Expander.seedTranscript message tag length = .ok (Expander.input message tag length 0) ∧
          (Expander.inputs message tag length).Nodup ∧
          Expander.expand message tag length =
            .ok (((Expander.inputs message tag length).flatMap Sha512.hash).take length)) ∧
      Unambiguous (fun ((nonce, serverKey, clientKey) : Bytes × Bytes × Bytes) =>
          nonce.length = 32 ∧ serverKey.length = 32 ∧ clientKey.length = 32)
        (fun (nonce, serverKey, clientKey) => .ok (Envelope.transcript nonce serverKey clientKey)) ∧
      (∀ (keys : Envelope.Keys) (serverKey clientKey : Bytes), Envelope.create keys serverKey clientKey =
        keys.nonce ++ Hmac.mac keys.authKey (Envelope.transcript keys.nonce serverKey clientKey)) ∧
      (∀ nonce : Bytes, nonce.length = 32 → (Envelope.labels nonce).Nodup) ∧
      ∀ secret, let keys := Envelope.Keys.derive secret
        [keys.nonce, keys.authKey, keys.exportKey, keys.seed] =
          List.zipWith (Hkdf.stream secret) (Envelope.labels keys.nonce) [32, 64, 64, 32] := by
  refine ⟨Oprf.transcript_unambiguous, Oprf.finalize_eq_ok_iff, KeyPair.candidate_unambiguous,
    fun _ _ _ _ => KeyPair.exists_candidate_of_derive, Expander.seedTranscript_unambiguous, ?_,
    Envelope.transcript_unambiguous, fun _ _ _ => rfl, Envelope.labels_nodup, Envelope.derive_eq_labels⟩
  intro message tag length hl ht
  exact ⟨Expander.seedTranscript_eq hl ht, Expander.inputs_nodup message tag length hl,
    Expander.expand_eq_inputs message tag length hl ht⟩

theorem transcripts_unambiguous_shifted :
    (∃ octets, Oprf.transcript (Bytes.ascii "ab") (Bytes.ascii "c") = .ok octets ∧
        Oprf.transcript (Bytes.ascii "a") (Bytes.ascii "bc") ≠ .ok octets) ∧
      (Expander.inputs [] [] 16320).Nodup ∧ (Envelope.labels (Bytes.zeros 32)).Nodup := by
  obtain ⟨hfinalize, _, _, _, _, hexpand, _, _, hlabels, _⟩ := transcripts_unambiguous
  obtain ⟨octets, h⟩ := hfinalize.exists_octets (Bytes.ascii "ab", Bytes.ascii "c") (by decide)
  obtain ⟨_, hinputs, _⟩ := hexpand [] [] 16320 (Nat.le_refl _) (Nat.zero_le _)
  refine ⟨⟨octets, h, fun h' => ?_⟩, hinputs, hlabels _ (Bytes.zeros_length 32)⟩
  have heq := hfinalize.eq_of_octets (Bytes.ascii "ab", Bytes.ascii "c") (Bytes.ascii "a", Bytes.ascii "bc") octets
    (by decide) (by decide) h h'
  exact absurd heq (by decide)

end PakeRegistration
