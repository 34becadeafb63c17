import PakeRegistration.Proofs.Outcome
import PakeRegistration.SlowHash

namespace PakeRegistration

open Outcome

namespace Argon2.Parameters

def AreWords (p : Parameters) : Prop :=
  (0 ≤ p.timeCost ∧ p.timeCost < 0x100000000) ∧ (0 ≤ p.memoryCost ∧ p.memoryCost < 0x100000000) ∧
    (0 ≤ p.parallelism ∧ p.parallelism < 0x100000000) ∧ 0 ≤ p.version ∧ p.version < 0x100000000

def Admitted (p : Parameters) : Prop :=
  8 ≤ p.memoryCost ∧ 8 * p.parallelism % 0x100000000 ≤ p.memoryCost ∧ p.timeCost ≠ 0 ∧ p.parallelism ≠ 0 ∧
    p.parallelism ≤ 16777215

/-- Costs that are taken, with eight blocks of memory for every lane. -/
structure InRange (p : Parameters) : Prop where
  timeCost : 1 ≤ p.timeCost ∧ p.timeCost < 0x100000000
  parallelism : 1 ≤ p.parallelism ∧ p.parallelism ≤ 16777215
  memoryCost : 8 * p.parallelism ≤ p.memoryCost ∧ p.memoryCost < 0x100000000
  version : 0 ≤ p.version ∧ p.version < 0x100000000

/-- Eight blocks for as many lanes as there may be are fewer than the word size, so counting them modulo it admits no
other costs. -/
theorem inRange_iff (p : Parameters) : p.InRange ↔ p.AreWords ∧ p.Admitted := by
  constructor
  · rintro ⟨htime, hlanes, hmemory, hversion⟩
    have hproduct : 8 * p.parallelism % 0x100000000 = 8 * p.parallelism := Int.emod_eq_of_lt (by omega) (by omega)
    refine ⟨⟨?_, ?_, ?_, hversion⟩, ?_, ?_, ?_, ?_, hlanes.2⟩
    all_goals omega
  · rintro ⟨⟨htime, hmemory, hlanes, hversion⟩, _, hblocks, htime', hlanes', hmost⟩
    have hproduct : 8 * p.parallelism % 0x100000000 = 8 * p.parallelism := Int.emod_eq_of_lt (by omega) (by omega)
    rw [hproduct] at hblocks
    exact ⟨⟨by omega, htime.2⟩, ⟨by omega, hmost⟩, ⟨hblocks, hmemory.2⟩, hversion⟩

end Argon2.Parameters

namespace Argon2

theorem ite_some_eq_none_iff {α : Type} (c : Prop) [Decidable c] (a : α) (x : Option α) :
    (if c then some a else x) = none ↔ ¬c ∧ x = none := by
  by_cases h : c <;> simp [h]

theorem wordFault?_eq_none_iff (value : Int) : wordFault? value = none ↔ 0 ≤ value ∧ value < 0x100000000 := by
  simp only [wordFault?, ite_some_eq_none_iff, and_true]
  omega

theorem costFault?_eq_none_iff (p : Parameters) : costFault? p = none ↔ p.Admitted := by
  simp only [costFault?, ite_some_eq_none_iff, and_true, Parameters.Admitted]
  omega

def Parameters.conversionFault? (p : Parameters) : Option Fault :=
  (wordFault? p.timeCost).or <| (wordFault? p.memoryCost).or <| (wordFault? p.parallelism).or (wordFault? p.version)

theorem Parameters.fault?_eq_or (p : Parameters) : p.fault? = p.conversionFault?.or (costFault? p) := by
  simp only [fault?, conversionFault?, Option.orElse_eq_orElse, ← Option.or_eq_orElse, Option.or_assoc]

theorem Parameters.conversionFault?_eq_none_iff (p : Parameters) : p.conversionFault? = none ↔ p.AreWords := by
  simp only [conversionFault?, Option.or_eq_none_iff, wordFault?_eq_none_iff, AreWords]

theorem Parameters.fault?_eq_none_iff (p : Parameters) : p.fault? = none ↔ p.InRange := by
  rw [fault?_eq_or, Option.or_eq_none_iff, conversionFault?_eq_none_iff, costFault?_eq_none_iff, inRange_iff]

/-- Eight blocks for each of so many lanes are no blocks, counted modulo the word size. -/
example : Parameters.fault? ⟨8, 1, 0x20000000, 0x13⟩ = some .tooManyLanes := by decide

def Fault.isConversion : Fault → Bool
  | .negative | .tooBig | .notWord _ => true
  | .memoryTooSmall | .timeTooSmall | .tooFewLanes | .tooManyLanes => false

theorem isConversion_of_wordFault? {value : Int} {fault : Fault} (h : wordFault? value = some fault) :
    fault.isConversion = true := by
  unfold wordFault? at h
  repeat' split at h
  all_goals cases h
  all_goals rfl

theorem not_isConversion_of_costFault? {p : Parameters} {fault : Fault} (h : costFault? p = some fault) :
    fault.isConversion = false := by
  unfold costFault? at h
  repeat' split at h
  all_goals cases h
  all_goals rfl

theorem Parameters.isConversion_of_conversionFault? {p : Parameters} {fault : Fault}
    (h : p.conversionFault? = some fault) : fault.isConversion = true := by
  simp only [conversionFault?, Option.or_eq_some_iff] at h
  rcases h with h | ⟨_, h | ⟨_, h | ⟨_, h⟩⟩⟩
  all_goals exact isConversion_of_wordFault? h

end Argon2

namespace SlowHash

/-- What a hash may raise: that a number does not fit a word, that it refuses its costs, or something else. -/
inductive Raised
  | overflow (text : Text)
  | refusal (text : Text)
  | other (report : Report)

/-- The slow hash over any hash of a secret and a salt. The first two things that it may raise are handed on as one
kind of error; something else would come out as it is. -/
def hashBy (library : Argon2.Parameters → (secret salt : Bytes) → Except Raised Bytes) (p : Argon2.Parameters)
    (input : Bytes) : Except Report Bytes :=
  if input.length = inputSize then
    (library p input salt).mapError fun
      | .overflow text | .refusal text => .plain .slowHash ("Argon2 hashing failed: " ++ text)
      | .other report => report
  else .error (SlowHashError.report (.inputLength input.length))

/-- What is documented of a hash, for secrets and salts of the sizes that are used here. -/
structure Documented (library : Argon2.Parameters → (secret salt : Bytes) → Except Raised Bytes) : Prop where
  overflow (p : Argon2.Parameters) (secret : Bytes) (h : ¬p.AreWords) :
    ∃ text, library p secret salt = .error (.overflow text)
  refusal (p : Argon2.Parameters) (secret : Bytes) (h : p.AreWords) (h' : ¬p.Admitted) :
    ∃ text, library p secret salt = .error (.refusal text)
  digest (p : Argon2.Parameters) (secret : Bytes) (h : p.AreWords) (h' : p.Admitted) :
    ∃ stretched, library p secret salt = .ok stretched ∧ stretched.length = 64

def standard (p : Argon2.Parameters) (secret salt : Bytes) : Except Raised Bytes :=
  (Argon2.hash p secret salt).mapError fun fault =>
    if fault.isConversion then .overflow fault.message else .refusal fault.message

theorem standard_eq_ok (p : Argon2.Parameters) (secret salt : Bytes) (h : p.fault? = none) :
    standard p secret salt = .ok (Argon2.digest p secret salt) := by
  rw [standard, Argon2.hash, h]
  rfl

theorem standard_eq_error (p : Argon2.Parameters) (secret salt : Bytes) {fault : Argon2.Fault}
    (h : p.fault? = some fault) :
    standard p secret salt =
      .error (if fault.isConversion then .overflow fault.message else .refusal fault.message) := by
  rw [standard, Argon2.hash, h]
  rfl

theorem documented_standard : Documented standard where
  overflow p secret h := by
    rw [← p.conversionFault?_eq_none_iff] at h
    obtain ⟨fault, hfault⟩ := Option.ne_none_iff_exists'.mp h
    have hfirst : p.fault? = some fault := by rw [p.fault?_eq_or, hfault, Option.some_or]
    rw [standard_eq_error p secret salt hfirst, if_pos (Argon2.Parameters.isConversion_of_conversionFault? hfault)]
    exact ⟨_, rfl⟩
  refusal p secret h h' := by
    rw [← p.conversionFault?_eq_none_iff] at h
    rw [← Argon2.costFault?_eq_none_iff] at h'
    obtain ⟨fault, hfault⟩ := Option.ne_none_iff_exists'.mp h'
    have hfirst : p.fault? = some fault := by rw [p.fault?_eq_or, h, Option.none_or, hfault]
    rw [standard_eq_error p secret salt hfirst, Argon2.not_isConversion_of_costFault? hfault]
    exact ⟨_, rfl⟩
  digest p secret h h' := by
    have hnone := p.fault?_eq_none_iff.mpr (p.inRange_iff.mpr ⟨h, h'⟩)
    exact ⟨_, standard_eq_ok p secret salt hnone, Argon2.digest_length p secret salt⟩

theorem message_append (fault : Argon2.Fault) :
    Text.ofString s!"Argon2 hashing failed: {fault.message}" =
      Text.ofString "Argon2 hashing failed: " ++ Text.ofString fault.message := by
  simp only [Text.ofString, ← List.map_append, ← String.toList_append]
  rfl

theorem report_hash_eq (p : Argon2.Parameters) (input : Bytes) :
    (hash p input).mapError SlowHashError.report = hashBy standard p input := by
  rw [hash, hashBy]
  split
  · rw [standard]
    cases Argon2.hash p input salt with
    | ok stretched => rfl
    | error fault =>
      simp only [mapError_error, SlowHashError.report, message_append]
      cases fault.isConversion with
      | true => rfl
      | false => rfl
  · rfl

structure Domain (p : Argon2.Parameters) (input : Bytes) (outcome : Except Report Bytes) : Prop where
  exists_ok_iff : (∃ stretched, outcome = .ok stretched) ↔ input.length = 64 ∧ p.InRange
  length (stretched : Bytes) (h : outcome = .ok stretched) : stretched.length = 64
  category (report : Report) (h : outcome = .error report) : report.category = .slowHash
  lengthFirst (h : input.length ≠ 64) :
    outcome = .error (.plain .slowHash s!"Invalid slow hash input length: {input.length}, expected 64")

theorem Domain.of_refused {p : Argon2.Parameters} {input : Bytes} (text : Text)
    (h : ¬(input.length = 64 ∧ p.InRange))
    (hfirst : input.length ≠ 64 → text = s!"Invalid slow hash input length: {input.length}, expected 64") :
    Domain p input (.error (.plain .slowHash text)) := by
  refine ⟨iff_of_false ?_ h, ?_, ?_, fun hl => by rw [hfirst hl]⟩
  · rintro ⟨stretched, hok⟩
    cases hok
  · intro stretched hok
    cases hok
  · intro report hreport
    rw [← Except.error.inj hreport]
    rfl

theorem Documented.domain {library : Argon2.Parameters → (secret salt : Bytes) → Except Raised Bytes}
    (h : Documented library) (p : Argon2.Parameters) (input : Bytes) : Domain p input (hashBy library p input) := by
  by_cases hl : input.length = inputSize
  · rw [hashBy, if_pos hl]
    by_cases hwords : p.AreWords
    · by_cases hadmitted : p.Admitted
      · obtain ⟨stretched, hok, hlength⟩ := h.digest p input hwords hadmitted
        rw [hok, mapError_ok]
        refine ⟨iff_of_true ⟨_, rfl⟩ ⟨hl, p.inRange_iff.mpr ⟨hwords, hadmitted⟩⟩, ?_, ?_, fun hne => absurd hl hne⟩
        · intro other hother
          rw [← Except.ok.inj hother]
          exact hlength
        · intro report hreport
          cases hreport
      · obtain ⟨text, herror⟩ := h.refusal p input hwords hadmitted
        rw [herror, mapError_error]
        exact .of_refused _ (fun hin => hadmitted (p.inRange_iff.mp hin.2).2) fun hne => absurd hl hne
    · obtain ⟨text, herror⟩ := h.overflow p input hwords
      rw [herror, mapError_error]
      exact .of_refused _ (fun hin => hwords (p.inRange_iff.mp hin.2).1) fun hne => absurd hl hne
  · rw [hashBy, if_neg hl]
    exact .of_refused _ (fun hin => hl hin.1) fun _ => rfl

/-- A digest is stretched to 64 octets if all costs are in their ranges, and whatever else comes is refused with one
kind of error, a wrong length before any cost. This is so over every hash that does what is documented of it, and the
hash that is used does. -/
theorem hash_domain (p : Argon2.Parameters) (input : Bytes) :
    Domain p input ((hash p input).mapError SlowHashError.report) ∧
      (hash p input).mapError SlowHashError.report = hashBy standard p input ∧ Documented standard ∧
      ∀ library, Documented library → Domain p input (hashBy library p input) := by
  refine ⟨?_, report_hash_eq p input, documented_standard, fun library h => h.domain p input⟩
  rw [report_hash_eq]
  exact documented_standard.domain p input

theorem hash_domain_at_bounds :
    (∃ stretched, hashBy standard ⟨8, 1, 1, 0x13⟩ (Bytes.zeros 64) = .ok stretched) ∧
      (¬∃ stretched, hashBy standard ⟨8, 1, 0x20000000, 0x13⟩ (Bytes.zeros 64) = .ok stretched) ∧
      hashBy standard ⟨-1, 0, 0x10000000000000000, -1⟩ (Bytes.zeros 63) =
        .error (.plain .slowHash "Invalid slow hash input length: 63, expected 64") := by
  refine ⟨?_, ?_, ?_⟩
  · apply ((hash_domain ⟨8, 1, 1, 0x13⟩ (Bytes.zeros 64)).2.2.2 standard documented_standard).exists_ok_iff.mpr
    exact ⟨by decide, by decide, by decide, by decide, by decide⟩
  · rw [((hash_domain ⟨8, 1, 0x20000000, 0x13⟩ (Bytes.zeros 64)).2.2.2 standard documented_standard).exists_ok_iff]
    rintro ⟨_, hrange⟩
    exact absurd hrange.parallelism.2 (by decide)
  · apply ((hash_domain ⟨-1, 0, 0x10000000000000000, -1⟩ (Bytes.zeros 63)).2.2.2 standard
      documented_standard).lengthFirst
    decide

end SlowHash

end PakeRegistration
