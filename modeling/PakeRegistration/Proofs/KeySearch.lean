import PakeRegistration.Proofs.Client
import PakeRegistration.Proofs.Reduction
import PakeRegistration.Proofs.Residues

namespace PakeRegistration.KeyPair

open Outcome

section

variable {input : Bytes} {counter : Nat}

theorem firstScalar_of_zero (hc : counter < 256) (hs : scalarAt input counter = .ok Scalar.zero) (remaining : Nat) :
    firstScalar input counter (remaining + 1) =
      ⟨.noted (.zeroDerivation counter) :: (firstScalar input (counter + 1) remaining).events,
        (firstScalar input (counter + 1) remaining).outcome⟩ := by
  rw [firstScalar_eq input counter remaining hc hs, if_pos rfl]
  rfl

theorem firstScalar_of_ne_zero (hc : counter < 256) {scalar : Bytes} (hs : scalarAt input counter = .ok scalar)
    (hne : scalar ≠ Scalar.zero) (remaining : Nat) :
    firstScalar input counter (remaining + 1) = ⟨[], .ok scalar⟩ := by
  rw [firstScalar_eq input counter remaining hc hs, if_neg hne]
  rfl

def passed (counter count : Nat) : List Event :=
  (List.range' counter count).map fun c => .noted (.zeroDerivation c)

theorem passed_succ (counter count : Nat) :
    passed counter (count + 1) = .noted (.zeroDerivation counter) :: passed (counter + 1) count := by
  simp [passed, List.range'_succ]

/-- Counters that are passed over come before what the counters after them do, and leave no other trace. -/
theorem firstScalar_add (count remaining : Nat) (hc : counter + count ≤ 256)
    (h : ∀ c, counter ≤ c → c < counter + count → scalarAt input c = .ok Scalar.zero) :
    firstScalar input counter (count + remaining) =
      ⟨passed counter count ++ (firstScalar input (counter + count) remaining).events,
        (firstScalar input (counter + count) remaining).outcome⟩ := by
  induction count generalizing counter with
  | zero => simp [passed]
  | succ count ih =>
      have hzero := h counter (Nat.le_refl counter) (by omega)
      have hnext := @ih (counter + 1) (by omega) fun c hl hr => h c (by omega) (by omega)
      have hremaining : count + 1 + remaining = count + remaining + 1 := by omega
      have hcounter : counter + 1 + count = counter + (count + 1) := by omega
      rw [hremaining, firstScalar_of_zero (by omega) hzero, hnext, hcounter, passed_succ]
      rfl

end

/-- The least counter whose scalar is not zero, with its scalar. -/
structure First (seed info : Bytes) (counter : Nat) (scalar : Bytes) : Prop where
  lt : counter < 256
  scalarAt_eq : scalarAt (seedInput seed info) counter = .ok scalar
  ne_zero : scalar ≠ Scalar.zero
  before (earlier : Nat) (h : earlier < counter) : scalarAt (seedInput seed info) earlier = .ok Scalar.zero

def AllZero (seed info : Bytes) : Prop :=
  ∀ counter < 256, scalarAt (seedInput seed info) counter = .ok Scalar.zero

theorem exists_first_or_allZero (seed info : Bytes) :
    (∃ counter scalar, First seed info counter scalar) ∨ AllZero seed info := by
  classical
  by_cases h : ∃ counter, counter < 256 ∧ scalarAt (seedInput seed info) counter ≠ .ok Scalar.zero
  · obtain ⟨hlt, hne⟩ := Nat.find_spec h
    obtain ⟨n, hn⟩ := exists_scalarAt (seedInput seed info) (Nat.find h)
    refine Or.inl ⟨Nat.find h, Scalar.ofNat n, hlt, hn, ?_, ?_⟩
    · intro hz
      apply hne
      rw [hn, hz]
    · intro earlier hearlier
      by_contra hz
      exact Nat.find_min h hearlier ⟨by omega, hz⟩
  · refine Or.inr fun counter hlt => ?_
    by_contra hz
    exact h ⟨counter, hlt, hz⟩

theorem First.exists_ofNat {seed info scalar : Bytes} {counter : Nat} (h : First seed info counter scalar) :
    ∃ n, ¬Scalar.order ∣ n ∧ scalar = Scalar.ofNat n := by
  obtain ⟨n, hn⟩ := exists_scalarAt (seedInput seed info) counter
  have hscalar : scalar = Scalar.ofNat n := Except.ok.inj (h.scalarAt_eq.symm.trans hn)
  refine ⟨n, ?_, hscalar⟩
  intro hd
  exact h.ne_zero (hscalar.trans ((Scalar.ofNat_eq_zero_iff n).mpr hd))

theorem First.derivable {seed info scalar : Bytes} {counter : Nat} (h : First seed info counter scalar) :
    Derivable seed info := by
  refine ⟨counter, h.lt, ?_⟩
  rw [h.scalarAt_eq, ne_eq, Except.ok.injEq]
  exact h.ne_zero

theorem First.firstScalar_eq {seed info scalar : Bytes} {counter : Nat} (h : First seed info counter scalar) :
    firstScalar (seedInput seed info) 0 counters = ⟨passed 0 counter, .ok scalar⟩ := by
  have hlt := h.lt
  obtain ⟨after, hafter⟩ : ∃ after, counters = counter + (after + 1) := ⟨255 - counter, by simp only [counters]; omega⟩
  rw [hafter, firstScalar_add counter (after + 1) (by omega) fun c _ hc => h.before c (by omega), Nat.zero_add,
    firstScalar_of_ne_zero hlt h.scalarAt_eq h.ne_zero, List.append_nil]

theorem AllZero.firstScalar_eq {seed info : Bytes} (h : AllZero seed info) :
    firstScalar (seedInput seed info) 0 counters = ⟨passed 0 256, .error (.protocol .keyPairExhausted)⟩ := by
  have hcounters : counters = 256 + 0 := rfl
  rw [hcounters, firstScalar_add 256 0 (by omega) fun c _ hc => h c (by omega)]
  simp only [firstScalar, Run.fail, List.append_nil]

section

variable {G : PrimeGroup} {seed info : Bytes}

theorem derive_of_search (hi : info.length ≤ 65535) {events : List Event} {outcome : Except Error Bytes}
    (h : firstScalar (seedInput seed info) 0 counters = ⟨events, outcome⟩) :
    derive G seed info =
      ⟨events, outcome >>= fun scalar => (G.multiplyBase scalar).mapError .protocol >>= fun element =>
        .ok ⟨scalar, element⟩⟩ := by
  rw [derive_eq G seed hi, h]
  cases outcome with
  | error e => rfl
  | ok scalar =>
      rw [Run.bind_of_ok (a := scalar) rfl, ok_bind]
      cases G.multiplyBase scalar with
      | error e => exact congrArg (Run.mk · _) (List.append_nil events)
      | ok element => exact congrArg (Run.mk · _) (List.append_nil events)

theorem derive_of_allZero (hi : info.length ≤ 65535) (h : AllZero seed info) :
    derive G seed info = ⟨passed 0 256, .error (.protocol .keyPairExhausted)⟩ := by
  rw [derive_of_search hi h.firstScalar_eq, error_bind]

theorem exists_derive_of_first {E : Type} [AddCommGroup E] (I : G.Interpretation E) (hi : info.length ≤ 65535)
    {counter : Nat} {scalar : Bytes} (h : First seed info counter scalar) :
    ∃ element, derive G seed info = ⟨passed 0 counter, .ok ⟨scalar, element⟩⟩ ∧
      G.multiplyBase scalar = .ok element ∧ (∀ field, Scalar.validate scalar field = .ok scalar) ∧
      ∀ field, G.validate element field = .ok element := by
  obtain ⟨n, hn, rfl⟩ := h.exists_ofNat
  have hproduct := I.multiplyBase_ofNat n hn
  have hne : n • I.generator ≠ 0 := I.nsmul_ne_zero hn I.generator_ne_zero
  refine ⟨I.encode (n • I.generator), ?_, hproduct, ?_, ?_⟩
  · rw [derive_of_search hi h.firstScalar_eq, ok_bind, hproduct, mapError_ok, ok_bind]
  · exact fun field => Scalar.validate_eq_ok_iff.mpr ⟨rfl, Scalar.canonical_ofNat n hn⟩
  · exact (I.accepts_encode _ hne).validate

end

/-- A search over any way to get a scalar from octets; what that way does is seen among the rest. -/
def searchBy (hash : Bytes → Run Bytes) (input : Bytes) (counter : Nat) : (remaining : Nat) → Run Bytes
  | 0 => Run.fail (.protocol .keyPairExhausted)
  | remaining + 1 => do
      let candidate ← candidateInput input counter
      let scalar ← hash candidate
      if scalar = Scalar.zero then
        Run.note (.zeroDerivation counter)
        searchBy hash input (counter + 1) remaining
      else return scalar

def deriveBy (hash : Bytes → Run Bytes) (G : PrimeGroup) (seed info : Bytes) : Run KeyPair := do
  let input ← input seed info
  let privateKey ← searchBy hash input 0 counters
  let publicKey ← G.multiplyBase privateKey
  return ⟨privateKey, publicKey⟩

def hashScalar (candidate : Bytes) : Run Bytes :=
  Scalar.hash candidate Oprf.deriveKeyPairTag

theorem firstScalar_eq_searchBy (input : Bytes) (counter remaining : Nat) :
    firstScalar input counter remaining = searchBy hashScalar input counter remaining := by
  induction remaining generalizing counter with
  | zero => rfl
  | succ remaining ih =>
      rw [firstScalar, searchBy]
      simp only [ih]
      rfl

theorem derive_eq_deriveBy (G : PrimeGroup) (seed info : Bytes) :
    derive G seed info = deriveBy hashScalar G seed info := by
  rw [derive, deriveBy]
  simp only [firstScalar_eq_searchBy]

theorem input_of_long (seed : Bytes) {info : Bytes} (hi : 65535 < info.length) :
    input seed info = .error (.integer info.length 2) := by
  have hlength : FixedWidth.encode info.length 2 = .error (.integer info.length 2) :=
    FixedWidth.encode_of_le info.length 2 (by decide) hi
  rw [input, hlength, error_bind]

theorem deriveBy_of_long (hash : Bytes → Run Bytes) (G : PrimeGroup) (seed : Bytes) {info : Bytes}
    (hi : 65535 < info.length) :
    deriveBy hash G seed info = ⟨[], .error (.range (.integer info.length 2))⟩ := by
  rw [deriveBy, input_of_long seed hi]
  rfl

/-- What a derivation comes to for a seed, decided by the scalars of the 256 counters. -/
structure Decided (G : PrimeGroup) (seed info : Bytes) : Prop where
  decided : (∃ counter scalar, First seed info counter scalar) ∨ AllZero seed info
  encoded : input seed info = .ok (seedInput seed info) ∧
    ∀ counter < 256, candidateInput (seedInput seed info) counter = .ok (seedInput seed info ++ Bytes.ofNatBE 1 counter)
  derived (counter : Nat) (scalar : Bytes) (h : First seed info counter scalar) :
    ∃ element,
      derive G seed info = ⟨(List.range counter).map fun c => .noted (.zeroDerivation c), .ok ⟨scalar, element⟩⟩ ∧
        G.multiplyBase scalar = .ok element ∧ (∀ field, Scalar.validate scalar field = .ok scalar) ∧
        ∀ field, G.validate element field = .ok element
  exhausted (h : AllZero seed info) :
    derive G seed info =
      ⟨(List.range 256).map fun c => .noted (.zeroDerivation c), .error (.protocol .keyPairExhausted)⟩
  protocol_iff : (∃ e, (derive G seed info).outcome = .error e ∧ e.category = .protocol) ↔ AllZero seed info

theorem decided {G : PrimeGroup} (hG : G.Lawful) (seed : Bytes) {info : Bytes} (hi : info.length ≤ 65535) :
    Decided G seed info where
  decided := exists_first_or_allZero seed info
  encoded := ⟨input_eq seed info hi, candidateInput_eq (seedInput seed info)⟩
  derived counter scalar h := by
    obtain ⟨E, _, ⟨I⟩⟩ := hG
    rw [List.range_eq_range']
    exact exists_derive_of_first I hi h
  exhausted h := by
    rw [List.range_eq_range']
    exact derive_of_allZero hi h
  protocol_iff := by
    constructor
    · rintro ⟨e, he, -⟩
      rcases exists_first_or_allZero seed info with ⟨counter, scalar, hfirst⟩ | hz
      · obtain ⟨E, _, ⟨I⟩⟩ := hG
        obtain ⟨element, hderive, -⟩ := exists_derive_of_first I hi hfirst
        rw [hderive] at he
        cases he
      · exact hz
    · intro hz
      exact ⟨.protocol .keyPairExhausted, by rw [derive_of_allZero hi hz], rfl⟩

/-- A derivation gives the pair of the first counter whose scalar is not zero, behind one note for every counter before
it, and fails when there is none. Information that is too long stops it before any scalar is hashed, whatever the hash
would do. -/
theorem derive_first_nonzero (G : PrimeGroup) (hG : G.Lawful) (seed info : Bytes) :
    (info.length ≤ 65535 → Decided G seed info) ∧
      (65535 < info.length → (Error.range (.integer info.length 2)).category = .value ∧
        ∀ hash, deriveBy hash G seed info = ⟨[], .error (.range (.integer info.length 2))⟩) ∧
      derive G seed info = deriveBy hashScalar G seed info :=
  ⟨decided hG seed, fun hi => ⟨rfl, fun hash => deriveBy_of_long hash G seed hi⟩, derive_eq_deriveBy G seed info⟩

def sampleOutput : Bytes :=
  Client.outputOf (Bytes.ascii "pw") Residues.sampleElement

def sampleSeed : Bytes :=
  [0x54, 0x46, 0x9f, 0xba, 0xfa, 0x56, 0x8c, 0xa1, 0x47, 0xc5, 0x7b, 0xb2, 0xd1, 0x91, 0x96, 0x0d,
    0x94, 0x60, 0xb9, 0xa4, 0x95, 0xba, 0xa6, 0x6b, 0x0e, 0x19, 0x28, 0xea, 0xec, 0xa7, 0x45, 0xd1]

theorem first_sampleSeed : First sampleSeed defaultInfo 0 (Scalar.ofNat Residues.samplePrivateKey) where
  lt := by decide
  scalarAt_eq := by decide +kernel
  ne_zero := by decide +kernel
  before earlier h := absurd h (Nat.not_lt_zero earlier)

theorem finalize_sample :
    Oprf.finalize Residues.sample (Bytes.ascii "pw") (Scalar.ofNat 2) Residues.sampleEvaluated = .ok sampleOutput := by
  decide +kernel

theorem seed_sampleOutput : (Client.keysOf Residues.sampleSuite.slowHash sampleOutput).seed = sampleSeed := by
  decide +kernel

/-- The sample registration ends in a result. -/
theorem derivable_sampleOutput :
    Derivable (Client.keysOf Residues.sampleSuite.slowHash sampleOutput).seed defaultInfo := by
  rw [seed_sampleOutput]
  exact first_sampleSeed.derivable

theorem derive_first_nonzero_sample :
    Residues.sample.Lawful ∧ defaultInfo.length ≤ 65535 ∧
      First sampleSeed defaultInfo 0 (Scalar.ofNat Residues.samplePrivateKey) ∧
      derive Residues.sample sampleSeed defaultInfo =
        ⟨[], .ok ⟨Scalar.ofNat Residues.samplePrivateKey, Residues.samplePublicKey⟩⟩ ∧
      deriveBy hashScalar Residues.sample sampleSeed (Bytes.zeros 65536) =
        ⟨[], .error (.range (.integer 65536 2))⟩ := by
  have hlength : defaultInfo.length ≤ 65535 := by decide
  have hlong : 65535 < (Bytes.zeros 65536).length := by rw [Bytes.zeros_length]; omega
  have hproduct : Residues.sample.multiplyBase (Scalar.ofNat Residues.samplePrivateKey) =
      .ok Residues.samplePublicKey := by
    decide +kernel
  obtain ⟨hdecided, -, -⟩ := derive_first_nonzero Residues.sample Residues.sample_lawful sampleSeed defaultInfo
  obtain ⟨-, hrefused, -⟩ :=
    derive_first_nonzero Residues.sample Residues.sample_lawful sampleSeed (Bytes.zeros 65536)
  obtain ⟨element, hderive, helement, -⟩ := (hdecided hlength).derived 0 _ first_sampleSeed
  obtain rfl : element = Residues.samplePublicKey := Except.ok.inj (helement.symm.trans hproduct)
  have hcount := (hrefused hlong).2 hashScalar
  rw [Bytes.zeros_length] at hcount
  exact ⟨Residues.sample_lawful, hlength, first_sampleSeed, hderive, hcount⟩

end PakeRegistration.KeyPair
