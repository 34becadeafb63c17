import PakeRegistration.Proofs.Classification

namespace PakeRegistration

open Outcome

theorem RegistrationRequest.decode_eq_ok_iff {G : PrimeGroup} {data : Bytes} {m : RegistrationRequest} :
    decode G data = .ok m ↔ m.encode = data ∧ G.Accepts m.blindedElement := by
  simp only [decode_eq_classify, classify, ite_error_eq_ok_iff, Except.ok.injEq, not_not]
  constructor
  · rintro ⟨hshort, hlong, hidentity, helement, rfl⟩
    exact ⟨Bytes.field_all (by omega), data.field_length 0 32 (by omega), hidentity, helement⟩
  · rintro ⟨rfl, hl, hidentity, helement⟩
    have hl : m.encode.length = 32 := hl
    rw [Bytes.field_all (Nat.le_of_eq hl), hl]
    exact ⟨Nat.lt_irrefl 32, Nat.lt_irrefl 32, hidentity, helement, rfl⟩

namespace RegistrationResponse

theorem decode_eq_ok_iff {G : PrimeGroup} {data : Bytes} {m : RegistrationResponse} :
    decode G data = .ok m ↔ m.encode = data ∧ G.Accepts m.evaluatedElement ∧ G.Accepts m.serverPublicKey := by
  simp only [decode_eq_classify, classify, ite_error_eq_ok_iff, Except.ok.injEq, not_not]
  constructor
  · rintro ⟨_, hshort, hlong, hidentity, helement, hidentity', helement', rfl⟩
    refine ⟨?_, ⟨data.field_length 0 32 (by omega), hidentity, helement⟩,
      ⟨data.field_length 32 32 (by omega), hidentity', helement'⟩⟩
    rw [encode, data.field_append_field 0 32 32, Bytes.field_all (by omega)]
  · rintro ⟨rfl, ⟨hl, hidentity, helement⟩, ⟨hl', hidentity', helement'⟩⟩
    have hlength : m.encode.length = 64 := by rw [encode, List.length_append, hl, hl']; rfl
    have hevaluated : m.encode.field 0 32 = m.evaluatedElement :=
      Bytes.field_of_eq_append (a := []) (c := m.serverPublicKey) rfl rfl hl
    have hkey : m.encode.field 32 32 = m.serverPublicKey :=
      Bytes.field_of_eq_append (c := []) (by rw [List.append_nil]; rfl) hl hl'
    rw [hlength, hevaluated, hkey]
    exact ⟨by omega, by omega, by omega, hidentity, helement, hidentity', helement', rfl⟩

theorem exists_of_decode {G : PrimeGroup} {data : Bytes} {m : RegistrationResponse} (h : decode G data = .ok m) :
    m.encode = data ∧ (∃ field, G.validate m.evaluatedElement field = .ok m.evaluatedElement) ∧
      ∃ field, G.validate m.serverPublicKey field = .ok m.serverPublicKey := by
  obtain ⟨hencode, hevaluated, hkey⟩ := decode_eq_ok_iff.mp h
  exact ⟨hencode, ⟨"evaluated element", hevaluated.validate _⟩, ⟨"server public key", hkey.validate _⟩⟩

theorem accepts_of_decode {G : PrimeGroup} {data : Bytes} {m : RegistrationResponse} (h : decode G data = .ok m) :
    G.Accepts m.evaluatedElement :=
  (decode_eq_ok_iff.mp h).2.1

end RegistrationResponse

namespace RegistrationUpload

theorem encode_eq_ok_iff {m : RegistrationUpload} {data : Bytes} :
    m.encode = .ok data ↔ m.envelope.length < Bytes.capacity 2 ∧
      data = Bytes.ofNatBE 2 m.envelope.length ++ m.envelope ++ m.clientPublicKey := by
  rw [encode]
  split
  next h => simp [h, eq_comm]
  next h => simp [h]

theorem encode_of_length {m : RegistrationUpload} (h : m.envelope.length = Envelope.size) :
    m.encode = .ok (Bytes.ofNatBE 2 Envelope.size ++ m.envelope ++ m.clientPublicKey) := by
  rw [encode, h, if_pos (by decide)]

theorem decode_eq_ok_iff {G : PrimeGroup} {data : Bytes} {m : RegistrationUpload} :
    decode G data = .ok m ↔
      m.encode = .ok data ∧ m.envelope.length = Envelope.size ∧ G.Accepts m.clientPublicKey := by
  simp only [decode_eq_classify, classify, ite_error_eq_ok_iff, Except.ok.injEq, not_not, encode_eq_ok_iff]
  constructor
  · rintro ⟨_, hlength, _, hshort, hlong, hidentity, helement, rfl⟩
    have henvelope := data.field_length 2 96 (by omega)
    have hnumber := data.ofNatBE_number 0 2 (by omega)
    refine ⟨⟨?_, ?_⟩, henvelope, data.field_length 98 32 (by omega), hidentity, helement⟩
    · rw [henvelope]
      decide
    · rw [hlength] at hnumber
      rw [henvelope, hnumber, data.field_append_field 0 2 96, data.field_append_field 0 98 32,
        Bytes.field_all (by omega)]
  · rintro ⟨⟨hcapacity, hdata⟩, hl, hl', hidentity, helement⟩
    rw [List.append_assoc] at hdata
    have hlength : data.length = 130 := by
      rw [hdata, List.length_append, List.length_append, Bytes.ofNatBE_length, hl, hl']
      rfl
    have hnumber : data.number 0 2 = 96 := (Bytes.number_of_eq_append (a := []) hdata rfl hcapacity).trans hl
    have henvelope : data.field 2 96 = m.envelope :=
      Bytes.field_of_eq_append hdata (Bytes.ofNatBE_length 2 _) hl
    have hkey : data.field 98 32 = m.clientPublicKey :=
      Bytes.field_of_eq_append (a := Bytes.ofNatBE 2 m.envelope.length ++ m.envelope) (c := [])
        (by rw [List.append_nil, hdata, List.append_assoc])
        (by rw [List.length_append, Bytes.ofNatBE_length, hl]; rfl) hl'
    rw [hlength, hnumber, henvelope, hkey]
    exact ⟨by omega, by omega, by omega, by omega, by omega, hidentity, helement, rfl⟩

end RegistrationUpload

namespace ClientState

theorem encode_eq_ok_iff {t : ClientState} {data : Bytes} :
    t.encode = .ok data ↔ t.consumed = false ∧ t.password.length < Bytes.capacity 4 ∧
      data = [UInt8.ofNat version] ++ t.blind ++ Bytes.ofNatBE 4 t.password.length ++ t.password := by
  rw [encode]
  split
  next h => simp [h]
  next h =>
    split
    next hl => simp [h, hl, eq_comm]
    next hl => simp [h, hl]

theorem decode_eq_ok_iff {data : Bytes} {t : ClientState} :
    decode data = .ok t ↔
      t.encode = .ok data ∧ Scalar.Canonical t.blind ∧ t.password.length ≤ maxPassword := by
  have hversion : Bytes.ofNatBE 1 1 = [UInt8.ofNat version] := rfl
  simp only [decode_eq_classify, classify, ite_error_eq_ok_iff, Except.ok.injEq, not_not, not_le, encode_eq_ok_iff]
  constructor
  · rintro ⟨_, hfound, _, _, hmax, hshort, hlong, hzero, horder, rfl⟩
    have hpassword := data.field_length 37 (data.number 33 4) (by omega)
    have hfirst := data.ofNatBE_number 0 1 (by omega)
    have hnumber := data.ofNatBE_number 33 4 (by omega)
    refine ⟨⟨rfl, ?_, ?_⟩, ⟨data.field_length 1 32 (by omega), Nat.pos_of_ne_zero hzero, horder⟩, ?_⟩
    · rw [hpassword]
      exact Nat.lt_of_le_of_lt (Nat.not_lt.mp hmax) (by decide)
    · rw [hfound, hversion] at hfirst
      rw [hpassword, hfirst, hnumber, data.field_append_field 0 1 32, data.field_append_field 0 33 4,
        data.field_append_field 0 37, Bytes.field_all (by omega)]
    · rw [hpassword]
      exact Nat.not_lt.mp hmax
  · rintro ⟨⟨hconsumed, hcapacity, hdata⟩, ⟨hblind, hpos, hlt⟩, hmax⟩
    have hblind : t.blind.length = 32 := hblind
    have hmax : t.password.length ≤ 65535 := hmax
    simp only [List.append_assoc] at hdata
    have hlength := congrArg List.length hdata
    simp only [List.length_append, List.length_singleton, Bytes.ofNatBE_length, hblind] at hlength
    have hfound : data.number 0 1 = 1 := Bytes.number_of_eq_append (a := []) hdata rfl (by decide)
    have hfield : data.field 1 32 = t.blind := Bytes.field_of_eq_append hdata rfl hblind
    have hnumber : data.number 33 4 = t.password.length :=
      Bytes.number_of_eq_append (a := [UInt8.ofNat version] ++ t.blind) (by rw [hdata, List.append_assoc])
        (by rw [List.length_append, hblind]; rfl) hcapacity
    have hpassword : data.field 37 t.password.length = t.password :=
      Bytes.field_of_eq_append (a := [UInt8.ofNat version] ++ t.blind ++ Bytes.ofNatBE 4 t.password.length) (c := [])
        (by simp only [hdata, List.append_assoc, List.append_nil])
        (by rw [List.length_append, List.length_append, hblind, Bytes.ofNatBE_length]; rfl) rfl
    rw [hfound, hnumber, hfield, hpassword]
    exact ⟨by omega, rfl, by omega, by omega, by omega, by omega, by omega, by omega, hlt, by rw [← hconsumed]⟩

theorem exists_of_decode {data : Bytes} {t : ClientState} (h : decode data = .ok t) :
    ∃ n, ¬Scalar.order ∣ n ∧ t = { blind := Scalar.ofNat n, password := t.password } ∧
      t.password.length ≤ maxPassword := by
  obtain ⟨hencode, hcanonical, hmax⟩ := decode_eq_ok_iff.mp h
  obtain ⟨hconsumed, _, _⟩ := encode_eq_ok_iff.mp hencode
  obtain ⟨n, hn, hblind⟩ := hcanonical.exists_ofNat
  exact ⟨n, hn, by rw [← hblind, ← hconsumed], hmax⟩

theorem decode_encode (n : Nat) (hn : ¬Scalar.order ∣ n) (password : Bytes) (hp : password.length ≤ maxPassword) :
    ∃ octets, encode { blind := Scalar.ofNat n, password := password } = .ok octets ∧
      decode octets = .ok { blind := Scalar.ofNat n, password := password } := by
  have hlt : password.length < Bytes.capacity 4 := Nat.lt_of_le_of_lt hp (by decide)
  have hencode := encode_eq_ok_iff (t := { blind := Scalar.ofNat n, password := password }).mpr ⟨rfl, hlt, rfl⟩
  exact ⟨_, hencode, decode_eq_ok_iff.mpr ⟨hencode, Scalar.canonical_ofNat n hn, hp⟩⟩

end ClientState

end PakeRegistration
