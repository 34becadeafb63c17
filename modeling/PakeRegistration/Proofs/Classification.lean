import PakeRegistration.ClientState
import PakeRegistration.Message.Registration
import PakeRegistration.Proofs.Framing
import PakeRegistration.Proofs.Json
import PakeRegistration.Proofs.Validation
import PakeRegistration.Ristretto255

namespace PakeRegistration

open Outcome Message.Reader

namespace RegistrationRequest

def classify (G : PrimeGroup) (data : Bytes) : Except DecodeError RegistrationRequest :=
  let element := data.field 0 32
  if data.length < 32 then .error (.truncated "registration request" 32 data.length)
  else if 32 < data.length then .error (.trailing "registration request" (data.length - 32))
  else if element = PrimeGroup.identity then .error (.identityElement "blinded element")
  else if ¬G.isElement element then .error (.elementEncoding "blinded element")
  else .ok ⟨element⟩

theorem decode_eq_classify (G : PrimeGroup) (data : Bytes) : decode G data = classify G data := by
  simp only [decode, start, read_bind, finish_bind, PrimeGroup.elementSize, Nat.zero_add, classify]
  refine ite_congr rfl (fun _ => rfl) fun hshort => ite_congr rfl (fun _ => rfl) fun _ => ?_
  rw [G.validate_bind _ _ _ (data.field_length 0 32 (by omega))]
  rfl

end RegistrationRequest

namespace RegistrationResponse

/-- The table of responses: all octets are counted before either element is looked at. -/
def classify (G : PrimeGroup) (data : Bytes) : Except DecodeError RegistrationResponse :=
  let evaluated := data.field 0 32
  let key := data.field 32 32
  if data.length < 32 then .error (.truncated "registration response" 32 data.length)
  else if data.length < 64 then .error (.truncated "registration response" 64 data.length)
  else if 64 < data.length then .error (.trailing "registration response" (data.length - 64))
  else if evaluated = PrimeGroup.identity then .error (.identityElement "evaluated element")
  else if ¬G.isElement evaluated then .error (.elementEncoding "evaluated element")
  else if key = PrimeGroup.identity then .error (.identityElement "server public key")
  else if ¬G.isElement key then .error (.elementEncoding "server public key")
  else .ok ⟨evaluated, key⟩

theorem decode_eq_classify (G : PrimeGroup) (data : Bytes) : decode G data = classify G data := by
  simp only [decode, start, read_bind, finish_bind, PrimeGroup.elementSize, Nat.zero_add, Nat.reduceAdd, classify]
  refine ite_congr rfl (fun _ => rfl) fun _ => ite_congr rfl (fun _ => rfl) fun hshort =>
    ite_congr rfl (fun _ => rfl) fun _ => ?_
  have hkey := data.field_length 32 32 (by omega)
  simp only [G.validate_bind _ _ _ (data.field_length 0 32 (by omega)), G.validate_bind _ _ _ hkey, pure_eq]

theorem not_isSurrogate_message {G : PrimeGroup} {data : Bytes} {e : DecodeError} (h : decode G data = .error e) :
    ∀ c ∈ (Error.decode e).message, ¬c.IsSurrogate := by
  rw [decode_eq_classify, classify] at h
  repeat' split at h
  all_goals cases h
  all_goals simp only [Error.message, Error.report, DecodeError.report, Report.message, List.forall_mem_append]
  all_goals repeat' apply And.intro
  all_goals exact Text.not_isSurrogate_ofString _

end RegistrationResponse

namespace RegistrationUpload

/-- The table of uploads: the envelope's length field comes before the count of what follows it. -/
def classify (G : PrimeGroup) (data : Bytes) : Except DecodeError RegistrationUpload :=
  let length := data.number 0 2
  let key := data.field 98 32
  if data.length < 2 then .error (.truncated "registration upload" 2 data.length)
  else if length ≠ 96 then .error (.envelopeSize length)
  else if data.length < 98 then .error (.truncated "registration upload" 98 data.length)
  else if data.length < 130 then .error (.truncated "registration upload" 130 data.length)
  else if 130 < data.length then .error (.trailing "registration upload" (data.length - 130))
  else if key = PrimeGroup.identity then .error (.identityElement "client public key")
  else if ¬G.isElement key then .error (.elementEncoding "client public key")
  else .ok ⟨data.field 2 96, key⟩

theorem decode_eq_classify (G : PrimeGroup) (data : Bytes) : decode G data = classify G data := by
  have hsize : Envelope.size = 96 := rfl
  simp only [decode, start, read_bind, readNat_bind, finish_bind, PrimeGroup.elementSize, Nat.zero_add, hsize, throw_eq,
    error_bind, classify]
  refine ite_congr rfl (fun _ => rfl) fun _ => ite_congr rfl (fun _ => rfl) fun hlength => ?_
  -- past its row the length field is 96, so that what follows stands at fixed offsets
  simp only [not_not.mp hlength, Nat.reduceAdd]
  refine ite_congr rfl (fun _ => rfl) fun _ => ite_congr rfl (fun _ => rfl) fun hshort =>
    ite_congr rfl (fun _ => rfl) fun _ => ?_
  rw [G.validate_bind _ _ _ (data.field_length 98 32 (by omega))]
  rfl

end RegistrationUpload

namespace ClientState

/-- The table of states: version and length field are looked at as soon as they are there, the blind last of all. -/
def classify (data : Bytes) : Except DecodeError ClientState :=
  let found := data.number 0 1
  let blind := data.field 1 32
  let length := data.number 33 4
  if data.length = 0 then .error (.truncated "client registration state" 1 0)
  else if found ≠ 1 then .error (.stateVersion found)
  else if data.length < 33 then .error (.truncated "client registration state" 33 data.length)
  else if data.length < 37 then .error (.truncated "client registration state" 37 data.length)
  else if 65535 < length then .error (.passwordLength length)
  else if data.length < 37 + length then .error (.truncated "client registration state" (37 + length) data.length)
  else if 37 + length < data.length then .error (.trailing "client registration state" (data.length - 37 - length))
  else if Bytes.toNatLE blind = 0 then .error (.zeroScalar "blinding scalar")
  else if Scalar.order ≤ Bytes.toNatLE blind then .error (.unreducedScalar "blinding scalar")
  else .ok { blind := blind, password := data.field 37 length }

theorem decode_eq_classify (data : Bytes) : decode data = classify data := by
  simp only [decode, start, read_bind, readNat_bind, finish_bind, Scalar.size, version, maxPassword, Nat.zero_add,
    Nat.reduceAdd, throw_eq, error_bind, classify, Nat.lt_one_iff, Nat.sub_sub]
  refine ite_congr rfl (fun h => by rw [h]) fun _ => ite_congr rfl (fun _ => rfl) fun _ =>
    ite_congr rfl (fun _ => rfl) fun _ => ite_congr rfl (fun _ => rfl) fun hshort =>
    ite_congr rfl (fun _ => rfl) fun _ => ite_congr rfl (fun _ => rfl) fun _ => ite_congr rfl (fun _ => rfl) fun _ => ?_
  -- the octets are all counted by now, so the blind has its length and is refused for what it stands for alone
  rw [Scalar.validate_bind _ _ _ (data.field_length 1 32 (by omega))]
  rfl

theorem not_isSurrogate_message {data : Bytes} {e : DecodeError} (h : decode data = .error e) :
    ∀ c ∈ (Error.decode e).message, ¬c.IsSurrogate := by
  rw [decode_eq_classify, classify] at h
  repeat' split at h
  all_goals cases h
  all_goals simp only [Error.message, Error.report, DecodeError.report, Report.message, List.forall_mem_append]
  all_goals repeat' apply And.intro
  all_goals exact Text.not_isSurrogate_ofString _

end ClientState

/-- A decoder that is given by a table and fails in few categories, and that notices where accepted octets were cut and
how many were put behind them. -/
structure Classified {α : Type} (decode table : Bytes → Except DecodeError α) (message : String)
    (categories : List Category) : Prop where
  decode_eq (data : Bytes) : decode data = table data
  category_mem (data : Bytes) (e : DecodeError) (h : decode data = .error e) : (Error.decode e).category ∈ categories
  cut (data : Bytes) (a : α) (h : decode data = .ok a) (count : Nat) (hc : count < data.length) :
    ∃ expected, count < expected ∧ expected ≤ data.length ∧
      decode (data.take count) = .error (.truncated message expected count)
  continued (data : Bytes) (a : α) (h : decode data = .ok a) (rest : Bytes) (hr : rest ≠ []) :
    decode (data ++ rest) = .error (.trailing message rest.length)

theorem Message.Reader.Framed.classified {α : Type} {decode table : Bytes → Except DecodeError α} {message : String}
    {categories : List Category} (h : Framed message 0 decode) (hd : ∀ data, decode data = table data)
    (hc : ∀ data e, table data = .error e → (Error.decode e).category ∈ categories) :
    Classified decode table message categories where
  decode_eq := hd
  category_mem data e he := hc data e ((hd data).symm.trans he)
  cut data a ha count := (h data a (Nat.zero_le _) ha).1 count (Nat.zero_le _)
  continued data a ha := (h data a (Nat.zero_le _) ha).2

theorem RegistrationRequest.classified (G : PrimeGroup) :
    Classified (decode G) (classify G) "registration request" [.truncated, .trailing, .groupElement] := by
  have hframed : Framed "registration request" 0 (decode G) := framed_read fun _ => framed_finish _
  refine hframed.classified (decode_eq_classify G) fun data e h => ?_
  rw [classify] at h
  repeat' split at h
  all_goals cases h
  all_goals exact List.elem_iff.mp rfl

theorem RegistrationResponse.classified (G : PrimeGroup) :
    Classified (decode G) (classify G) "registration response" [.truncated, .trailing, .groupElement] := by
  have hframed : Framed "registration response" 0 (decode G) :=
    framed_read fun _ => framed_read fun _ => framed_finish _
  refine hframed.classified (decode_eq_classify G) fun data e h => ?_
  rw [classify] at h
  repeat' split at h
  all_goals cases h
  all_goals exact List.elem_iff.mp rfl

theorem RegistrationUpload.classified (G : PrimeGroup) :
    Classified (decode G) (classify G) "registration upload" [.truncated, .trailing, .envelopeSize, .groupElement] := by
  have hframed : Framed "registration upload" 0 (decode G) :=
    framed_readNat fun _ => framed_guard <| framed_read fun _ => framed_read fun _ => framed_finish _
  refine hframed.classified (decode_eq_classify G) fun data e h => ?_
  rw [classify] at h
  repeat' split at h
  all_goals cases h
  all_goals exact List.elem_iff.mp rfl

theorem ClientState.classified :
    Classified decode classify "client registration state" [.truncated, .version, .decode, .trailing, .scalar] := by
  have hframed : Framed "client registration state" 0 decode :=
    framed_readNat fun _ => framed_guard <| framed_read fun _ => framed_readNat fun _ => framed_guard <|
      framed_read fun _ => framed_finish _
  refine hframed.classified decode_eq_classify fun data e h => ?_
  rw [classify] at h
  repeat' split at h
  all_goals cases h
  all_goals exact List.elem_iff.mp rfl

namespace Message

/-- Every octet string has exactly one outcome with each of the four decoders, the one of its table, and the strings
that a decoder accepts are no beginnings of each other. -/
theorem decoders_classified (G : PrimeGroup) :
    Classified (RegistrationRequest.decode G) (RegistrationRequest.classify G) "registration request"
        [.truncated, .trailing, .groupElement] ∧
      Classified (RegistrationResponse.decode G) (RegistrationResponse.classify G) "registration response"
        [.truncated, .trailing, .groupElement] ∧
      Classified (RegistrationUpload.decode G) (RegistrationUpload.classify G) "registration upload"
        [.truncated, .trailing, .envelopeSize, .groupElement] ∧
      Classified ClientState.decode ClientState.classify "client registration state"
        [.truncated, .version, .decode, .trailing, .scalar] :=
  ⟨RegistrationRequest.classified G, RegistrationResponse.classified G, RegistrationUpload.classified G,
    ClientState.classified⟩

def sampleOctets : Bytes := [1] ++ Scalar.ofNat 3 ++ [0, 0, 0, 1] ++ Bytes.ascii "p"

theorem decoders_classified_sample :
    RegistrationRequest.decode Ristretto255.group Ristretto255.generatorOctets = .ok ⟨Ristretto255.generatorOctets⟩ ∧
      RegistrationRequest.decode Ristretto255.group (Ristretto255.generatorOctets ++ [0, 0]) =
        .error (.trailing "registration request" 2) ∧
      ClientState.decode sampleOctets = .ok { blind := Scalar.ofNat 3, password := Bytes.ascii "p" } ∧
      ClientState.decode (sampleOctets.take 37) = .error (.truncated "client registration state" 38 37) ∧
      (∀ count, count < 38 → ∃ expected, count < expected ∧ expected ≤ 38 ∧
        ClientState.decode (sampleOctets.take count) =
          .error (.truncated "client registration state" expected count)) ∧
      ClientState.decode ([1] ++ Bytes.zeros 32 ++ [0, 1, 0, 0]) = .error (.passwordLength 65536) := by
  obtain ⟨hrequest, _, _, hstate⟩ := decoders_classified Ristretto255.group
  have hgenerator : RegistrationRequest.decode Ristretto255.group Ristretto255.generatorOctets =
      .ok ⟨Ristretto255.generatorOctets⟩ := by
    decide +kernel
  have hsample : ClientState.decode sampleOctets = .ok { blind := Scalar.ofNat 3, password := Bytes.ascii "p" } := by
    decide +kernel
  exact ⟨hgenerator, hrequest.continued _ _ hgenerator [0, 0] (by simp), hsample,
    (hstate.decode_eq _).trans (by decide +kernel), hstate.cut _ _ hsample,
    (hstate.decode_eq _).trans (by decide +kernel)⟩

end Message

end PakeRegistration
