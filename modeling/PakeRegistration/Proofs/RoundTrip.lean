import PakeRegistration.Proofs.Message

namespace PakeRegistration

open Outcome

namespace ClientState

theorem eq_of_unconsumed {t t' : ClientState} (hc : t.consumed = false) (hc' : t'.consumed = false)
    (hblind : t.blind = t'.blind) (hpassword : t.password = t'.password) : t = t' := by
  calc t = ⟨t.blind, t.password, t.consumed⟩ := rfl
    _ = ⟨t'.blind, t'.password, t'.consumed⟩ := by rw [hblind, hpassword, hc, hc']

theorem exists_encode {t : ClientState} (hc : t.consumed = false) (hp : t.password.length < Bytes.capacity 4) :
    ∃ data, t.encode = .ok data ∧ data.length = 1 + t.blind.length + 4 + t.password.length := by
  refine ⟨_, encode_eq_ok_iff.mpr ⟨hc, hp, rfl⟩, ?_⟩
  simp only [List.length_append, List.length_singleton, Bytes.ofNatBE_length]

/-- States with blinds of one length have different octets; without that, octets could pass from the blind to the
length field. -/
theorem encode_injective {t t' : ClientState} {data : Bytes} (h : t.encode = .ok data) (h' : t'.encode = .ok data)
    (hl : t.blind.length = t'.blind.length) : t = t' := by
  obtain ⟨hc, hp, hdata⟩ := encode_eq_ok_iff.mp h
  obtain ⟨hc', hp', hdata'⟩ := encode_eq_ok_iff.mp h'
  rw [hdata] at hdata'
  simp only [List.append_assoc] at hdata'
  obtain ⟨hblind, hrest⟩ := List.append_inj (List.append_cancel_left hdata') hl
  obtain ⟨_, hpassword⟩ := List.append_inj hrest (by rw [Bytes.ofNatBE_length, Bytes.ofNatBE_length])
  exact eq_of_unconsumed hc hc' hblind hpassword

theorem decode_encode_iff {t t' : ClientState} {data : Bytes} (h : t.encode = .ok data)
    (hl : t.blind.length = Scalar.size) :
    decode data = .ok t' ↔ (Scalar.Canonical t.blind ∧ t.password.length ≤ maxPassword) ∧ t' = t := by
  constructor
  · intro hd
    obtain ⟨h', hcanonical, hmax⟩ := decode_eq_ok_iff.mp hd
    have he : t' = t := encode_injective h' h (hcanonical.1.trans hl.symm)
    rw [he] at hcanonical hmax
    exact ⟨⟨hcanonical, hmax⟩, he⟩
  · rintro ⟨⟨hcanonical, hmax⟩, rfl⟩
    exact decode_eq_ok_iff.mpr ⟨h, hcanonical, hmax⟩

/-- Accepted octets are those of an unmarked state, which has no others; and the octets of an unmarked state are
accepted exactly if its blind stands for a number from one up to the order and its password is not too long for the
oblivious function, although longer ones fit the length field. -/
theorem decode_bijective :
    (∀ data t, decode data = .ok t → t.encode = .ok data ∧ t.consumed = false) ∧
      (∀ t : ClientState, t.consumed = false → t.blind.length = 32 → t.password.length < 4294967296 →
        ∃ data, t.encode = .ok data ∧ data.length = 37 + t.password.length ∧
          ∀ t', decode data = .ok t' ↔
            (0 < Bytes.toNatLE t.blind ∧ Bytes.toNatLE t.blind < Scalar.order ∧ t.password.length ≤ 65535) ∧
              t' = t) ∧
      ∀ data data' t t', decode data = .ok t → decode data' = .ok t' → t.blind = t'.blind →
        t.password = t'.password → data = data' := by
  have hencode : ∀ data t, decode data = .ok t → t.encode = .ok data ∧ t.consumed = false := by
    intro data t h
    obtain ⟨he, _, _⟩ := decode_eq_ok_iff.mp h
    exact ⟨he, (encode_eq_ok_iff.mp he).1⟩
  refine ⟨hencode, ?_, ?_⟩
  · intro t hc hb hp
    obtain ⟨data, he, hl⟩ := exists_encode hc (by rwa [show Bytes.capacity 4 = 4294967296 by decide])
    rw [hb] at hl
    refine ⟨data, he, hl, fun t' => ?_⟩
    have hsize : t.blind.length = Scalar.size := hb
    simp only [decode_encode_iff he hsize, Scalar.Canonical, hsize, true_and, and_assoc, maxPassword]
  · intro data data' t t' h h' hblind hpassword
    obtain ⟨he, hc⟩ := hencode data t h
    obtain ⟨he', hc'⟩ := hencode data' t' h'
    rw [eq_of_unconsumed hc hc' hblind hpassword, he'] at he
    exact (Except.ok.inj he).symm

theorem decode_bijective_at_limit :
    (∃ data, encode { blind := Scalar.ofNat 2, password := Bytes.zeros 65535 } = .ok data ∧ data.length = 65572 ∧
        decode data = .ok { blind := Scalar.ofNat 2, password := Bytes.zeros 65535 }) ∧
      (∃ data, encode { blind := Scalar.ofNat 2, password := Bytes.zeros 65536 } = .ok data ∧ data.length = 65573 ∧
        ∀ t, decode data ≠ .ok t) ∧
      ∃ data, encode { blind := Bytes.ofNatLE 32 Scalar.order, password := [] } = .ok data ∧ data.length = 37 ∧
        ∀ t, decode data ≠ .ok t := by
  have htwo : Bytes.toNatLE (Scalar.ofNat 2) = 2 := by decide +kernel
  have horder : Bytes.toNatLE (Bytes.ofNatLE 32 Scalar.order) = Scalar.order := by decide +kernel
  obtain ⟨_, h, _⟩ := decode_bijective
  obtain ⟨data, he, hl, hd⟩ := h { blind := Scalar.ofNat 2, password := Bytes.zeros 65535 } rfl (Scalar.ofNat_length 2)
    (by simp)
  obtain ⟨data', he', hl', hd'⟩ := h { blind := Scalar.ofNat 2, password := Bytes.zeros 65536 } rfl
    (Scalar.ofNat_length 2) (by simp)
  obtain ⟨data'', he'', hl'', hd''⟩ := h { blind := Bytes.ofNatLE 32 Scalar.order, password := [] } rfl
    (Bytes.ofNatLE_length 32 _) (by simp)
  refine ⟨⟨data, he, by simpa using hl, (hd _).mpr ⟨?_, rfl⟩⟩, ⟨data', he', by simpa using hl', fun t ht => ?_⟩,
    ⟨data'', he'', hl'', fun t ht => ?_⟩⟩
  · rw [htwo]
    exact ⟨by decide, by decide, by simp⟩
  · obtain ⟨⟨_, _, hmax⟩, _⟩ := (hd' t).mp ht
    simp at hmax
  · obtain ⟨⟨_, hlt, _⟩, _⟩ := (hd'' t).mp ht
    exact absurd hlt (by rw [horder]; exact Nat.lt_irrefl _)

end ClientState

/-- Octets and the values that may be sent stand for each other: what decodes was encoded, and what may be sent decodes
again. -/
structure Wire.RoundTrips (α : Type) [Wire α] (G : PrimeGroup) (Sendable : α → Prop) : Prop where
  encode_of_decode (data : Bytes) (a : α) (h : decode G data = .ok a) : encode a = .ok data
  decode_of_encode (a : α) (h : Sendable a) : ∃ data, encode a = .ok data ∧ decode G data = .ok a

theorem RegistrationRequest.roundTrips (G : PrimeGroup) :
    Wire.RoundTrips RegistrationRequest G fun m => G.Accepts m.blindedElement := by
  refine ⟨fun data m h => ?_, fun m h => ⟨m.encode, rfl, decode_eq_ok_iff.mpr ⟨rfl, h⟩⟩⟩
  obtain ⟨rfl, _⟩ := decode_eq_ok_iff.mp h
  rfl

namespace RegistrationResponse

theorem roundTrips (G : PrimeGroup) :
    Wire.RoundTrips RegistrationResponse G fun m => G.Accepts m.evaluatedElement ∧ G.Accepts m.serverPublicKey := by
  refine ⟨fun data m h => ?_, fun m h => ⟨m.encode, rfl, decode_eq_ok_iff.mpr ⟨rfl, h⟩⟩⟩
  obtain ⟨rfl, _, _⟩ := decode_eq_ok_iff.mp h
  rfl

/-- Nothing but the length of the first element says where the second one starts. -/
theorem eq_iff_of_decode_encode {G : PrimeGroup} {m m' : RegistrationResponse} (h : decode G m.encode = .ok m') :
    m' = m ↔ m.evaluatedElement.length = 32 := by
  obtain ⟨hencode, ⟨hl, _, _⟩, _⟩ := decode_eq_ok_iff.mp h
  constructor
  · rintro rfl
    exact hl
  · intro hl'
    obtain ⟨hevaluated, hkey⟩ := List.append_inj hencode (hl.trans hl'.symm)
    calc m' = ⟨m'.evaluatedElement, m'.serverPublicKey⟩ := rfl
      _ = ⟨m.evaluatedElement, m.serverPublicKey⟩ := by rw [hevaluated, hkey]

end RegistrationResponse

namespace RegistrationUpload

theorem exists_encode_iff (m : RegistrationUpload) : (∃ data, m.encode = .ok data) ↔ m.envelope.length ≤ 65535 := by
  have hcapacity : Bytes.capacity 2 = 65536 := by decide
  simp only [encode_eq_ok_iff, hcapacity]
  constructor
  · rintro ⟨_, hl, _⟩
    exact Nat.le_of_lt_succ hl
  · intro hl
    exact ⟨_, Nat.lt_succ_of_le hl, rfl⟩

theorem encode_injective {m m' : RegistrationUpload} {data : Bytes} (h : m.encode = .ok data)
    (h' : m'.encode = .ok data) : m = m' := by
  obtain ⟨hl, hdata⟩ := encode_eq_ok_iff.mp h
  obtain ⟨hl', hdata'⟩ := encode_eq_ok_iff.mp h'
  rw [hdata, List.append_assoc, List.append_assoc] at hdata'
  obtain ⟨hlength, hrest⟩ := List.append_inj hdata' (by rw [Bytes.ofNatBE_length, Bytes.ofNatBE_length])
  obtain ⟨henvelope, hkey⟩ := List.append_inj hrest (Bytes.ofNatBE_injective hl hl' hlength)
  calc m = ⟨m.envelope, m.clientPublicKey⟩ := rfl
    _ = ⟨m'.envelope, m'.clientPublicKey⟩ := by rw [henvelope, hkey]

theorem wire_encode {m : RegistrationUpload} {data : Bytes} (h : m.encode = .ok data) :
    Wire.encode m = .ok data := by
  change m.encode.mapError Error.range = .ok data
  rw [h, mapError_ok]

theorem roundTrips (G : PrimeGroup) :
    Wire.RoundTrips RegistrationUpload G fun m => m.envelope.length = 96 ∧ G.Accepts m.clientPublicKey := by
  refine ⟨fun data m h => ?_, fun m ⟨hl, hkey⟩ => ?_⟩
  · obtain ⟨hencode, _, _⟩ := decode_eq_ok_iff.mp h
    exact wire_encode hencode
  · have hencode := encode_of_length hl
    exact ⟨_, wire_encode hencode, decode_eq_ok_iff.mpr ⟨hencode, hl, hkey⟩⟩

theorem decode_encode_or {G : PrimeGroup} {m : RegistrationUpload} {data : Bytes} (h : m.encode = .ok data) :
    decode G data = .ok m ∨ ∃ e, decode G data = .error e := by
  cases hd : decode G data with
  | error e => exact Or.inr ⟨e, rfl⟩
  | ok m' =>
      obtain ⟨h', _, _⟩ := decode_eq_ok_iff.mp hd
      rw [encode_injective h h']
      exact Or.inl rfl

end RegistrationUpload

namespace Message

/-- The three messages survive the way there and back. Uploads that hold anything at all are encoded if the length of
the envelope fits its field, and read as themselves or refused; responses that hold anything at all are read as
themselves only if the first element has its length. -/
theorem round_trips (G : PrimeGroup) :
    Wire.RoundTrips RegistrationRequest G (fun m => G.Accepts m.blindedElement) ∧
      Wire.RoundTrips RegistrationResponse G
        (fun m => G.Accepts m.evaluatedElement ∧ G.Accepts m.serverPublicKey) ∧
      Wire.RoundTrips RegistrationUpload G (fun m => m.envelope.length = 96 ∧ G.Accepts m.clientPublicKey) ∧
      (∀ m : RegistrationUpload, ((∃ data, m.encode = .ok data) ↔ m.envelope.length ≤ 65535) ∧
        ∀ data, m.encode = .ok data →
          RegistrationUpload.decode G data = .ok m ∨ ∃ e, RegistrationUpload.decode G data = .error e) ∧
      ∀ m m' : RegistrationResponse, RegistrationResponse.decode G m.encode = .ok m' →
        (m' = m ↔ m.evaluatedElement.length = 32) :=
  ⟨RegistrationRequest.roundTrips G, RegistrationResponse.roundTrips G, RegistrationUpload.roundTrips G,
    fun m => ⟨m.exists_encode_iff, fun _ h => RegistrationUpload.decode_encode_or h⟩,
    fun _ _ h => RegistrationResponse.eq_iff_of_decode_encode h⟩

def sampleResplit : RegistrationResponse :=
  ⟨Ristretto255.generatorOctets.take 31, Ristretto255.generatorOctets.drop 31 ++ Ristretto255.generatorOctets⟩

theorem round_trips_generator :
    (∃ data, Wire.encode (⟨Bytes.zeros 96, Ristretto255.generatorOctets⟩ : RegistrationUpload) = .ok data ∧
        Wire.decode Ristretto255.group data =
          .ok (⟨Bytes.zeros 96, Ristretto255.generatorOctets⟩ : RegistrationUpload)) ∧
      (¬∃ data, RegistrationUpload.encode ⟨Bytes.zeros 65536, Ristretto255.generatorOctets⟩ = .ok data) ∧
      ∃ m, RegistrationResponse.decode Ristretto255.group sampleResplit.encode = .ok m ∧ m ≠ sampleResplit := by
  have hgenerator : Ristretto255.group.Accepts Ristretto255.generatorOctets := by
    refine ⟨?_, ?_, ?_⟩ <;> decide +kernel
  have hresplit : RegistrationResponse.decode Ristretto255.group sampleResplit.encode =
      .ok ⟨Ristretto255.generatorOctets, Ristretto255.generatorOctets⟩ := by
    decide +kernel
  obtain ⟨_, _, hupload, hany, hresponse⟩ := round_trips Ristretto255.group
  refine ⟨hupload.decode_of_encode _ ⟨Bytes.zeros_length 96, hgenerator⟩, ?_, _, hresplit, ?_⟩
  · rw [(hany _).1]
    simp
  · intro he
    exact absurd ((hresponse _ _ hresplit).mp he) (by decide)

end Message

end PakeRegistration
