import Mathlib.Data.List.TakeWhile
import PakeRegistration.Proofs.Blinding
import PakeRegistration.Proofs.Host
import PakeRegistration.Proofs.Json

/-!
What a registration that does not start says of its password. Blinding fails for what the source gives, and the same way
for every password. Main statement: a text with a UTF-8 form fails with errors of the engine alone, which tell its
length at most; a text that has none fails with an error of another kind, which tells where it has none and why.
-/

namespace PakeRegistration

open Outcome

/-- If both of them fail, they fail with the same error. -/
def Outcome.FailAlike {ε α β : Type} (x : Except ε α) (y : Except ε β) : Prop :=
  ∀ e e', x = .error e → y = .error e' → e = e'

namespace Oprf

section

variable {G : PrimeGroup} {source : RandomSource}

theorem attempts_succ {scalar : Bytes} {attempt : Nat} (h : scalarOf (source attempt 64) = .ok scalar) (input : Bytes)
    (remaining : Nat) :
    (∃ found, (attempts G source input attempt (remaining + 1)).outcome = .ok (some found)) ∨
      (attempts G source input attempt (remaining + 1)).outcome =
        (attempts G source input (attempt + 1) remaining).outcome := by
  by_cases hu : scalar = Scalar.zero ∨ input = PrimeGroup.identity
  · rw [attempts_of_unusable h hu]
    exact Or.inr rfl
  · cases hm : G.multiply scalar input with
    | ok element =>
        rw [attempts_of_product h hu hm]
        exact Or.inl ⟨_, rfl⟩
    | error e =>
        rw [attempts_of_rejected h hu hm]
        exact Or.inr rfl

theorem attempts_congr (G : PrimeGroup) (source : RandomSource) (input input' : Bytes) (attempt remaining : Nat) :
    (∃ found, (attempts G source input attempt remaining).outcome = .ok (some found)) ∨
      (∃ found, (attempts G source input' attempt remaining).outcome = .ok (some found)) ∨
      (attempts G source input attempt remaining).outcome = (attempts G source input' attempt remaining).outcome := by
  induction remaining generalizing attempt with
  | zero => exact Or.inr (Or.inr rfl)
  | succ remaining ih =>
      cases hs : scalarOf (source attempt 64) with
      | error e =>
          rw [attempts_of_error hs, attempts_of_error hs]
          exact Or.inr (Or.inr rfl)
      | ok scalar =>
          rcases attempts_succ (G := G) hs input remaining with hfound | hnext
          · exact Or.inl hfound
          rcases attempts_succ (G := G) hs input' remaining with hfound' | hnext'
          · exact Or.inr (Or.inl hfound')
          rw [hnext, hnext']
          exact ih (attempt + 1)

theorem exists_of_attempts_error {input : Bytes} {attempt remaining : Nat} {e : Error}
    (h : (attempts G source input attempt remaining).outcome = .error e) : ∃ fault, e = .randomSource fault := by
  induction remaining generalizing attempt with
  | zero => cases h
  | succ remaining ih =>
      cases hs : scalarOf (source attempt 64) with
      | error fault =>
          rw [attempts_of_error hs] at h
          cases h
          exact ⟨fault, rfl⟩
      | ok scalar =>
          rcases attempts_succ (G := G) hs input remaining with ⟨found, hfound⟩ | hnext
          · rw [hfound] at h
            cases h
          · rw [hnext] at h
            exact ih h

theorem exists_blind_outcome (G : PrimeGroup) (source : RandomSource) (password : Bytes) (limit : Int) :
    ∃ input, (blind G source password limit).outcome =
      (attempts G source input 1 limit.toNat).outcome >>= fun
        | some found => .ok found
        | none => .error (.protocol (.blindExhausted limit)) := by
  obtain ⟨uniform, _, hi⟩ := exists_hashToGroup G password
  exact ⟨G.ofUniform uniform, congrArg Run.outcome (blind_of_attempts hi rfl)⟩

theorem blind_failAlike (G : PrimeGroup) (source : RandomSource) (password password' : Bytes) (limit : Int) :
    FailAlike (blind G source password limit).outcome (blind G source password' limit).outcome := by
  obtain ⟨input, ho⟩ := exists_blind_outcome G source password limit
  obtain ⟨input', ho'⟩ := exists_blind_outcome G source password' limit
  intro e e' he he'
  rw [ho] at he
  rw [ho'] at he'
  rcases attempts_congr G source input input' 1 limit.toNat with ⟨_, hf⟩ | ⟨_, hf⟩ | heq
  · rw [hf] at he
    cases he
  · rw [hf] at he'
    cases he'
  · rw [heq, he'] at he
    exact (Except.error.inj he).symm

theorem exists_of_blind_error {password : Bytes} {limit : Int} {e : Error}
    (h : (blind G source password limit).outcome = .error e) :
    (∃ fault, e = .randomSource fault) ∨ e = .protocol (.blindExhausted limit) := by
  obtain ⟨input, ho⟩ := exists_blind_outcome G source password limit
  rw [ho] at h
  cases ha : (attempts G source input 1 limit.toNat).outcome with
  | error e' =>
      rw [ha] at h
      cases h
      exact Or.inl (exists_of_attempts_error ha)
  | ok found =>
      rw [ha] at h
      cases found with
      | none =>
          cases h
          exact Or.inr rfl
      | some found => cases h

end

end Oprf

namespace Client

variable {suite : CipherSuite} {source : RandomSource}

theorem start_of_long {password : Bytes} (h : ClientState.maxPassword < password.length) :
    (start suite source password).outcome = .error (.protocol (.passwordTooLong password.length)) := by
  rw [start, if_pos h]
  rfl

theorem start_of_le {password : Bytes} (h : password.length ≤ ClientState.maxPassword) :
    (start suite source password).outcome =
      (Oprf.blind suite.group source password 8).outcome >>= fun blinded =>
        .ok ⟨⟨blinded.element⟩, { blind := blinded.blind, password := password }⟩ := by
  rw [start, if_neg (Nat.not_lt.mpr h), Run.outcome_bind]
  rfl

theorem start_error_of_le {password : Bytes} (h : password.length ≤ ClientState.maxPassword) (e : Error) :
    (start suite source password).outcome = .error e ↔
      (Oprf.blind suite.group source password 8).outcome = .error e := by
  rw [start_of_le h]
  cases (Oprf.blind suite.group source password 8).outcome <;> simp

theorem start_failAlike {password password' : Bytes} (hl : password.length = password'.length) :
    FailAlike (start suite source password).outcome (start suite source password').outcome := by
  intro e e' he he'
  by_cases h : ClientState.maxPassword < password.length
  · rw [start_of_long h] at he
    rw [start_of_long (by rwa [← hl]), ← hl] at he'
    rw [← Except.error.inj he, ← Except.error.inj he']
  · have h' : password'.length ≤ ClientState.maxPassword := by rw [← hl]; exact Nat.not_lt.mp h
    rw [start_error_of_le (Nat.not_lt.mp h)] at he
    rw [start_error_of_le h'] at he'
    exact Oprf.blind_failAlike suite.group source password password' 8 e e' he he'

theorem category_mem_of_start {password : Bytes} {e : Error} (h : (start suite source password).outcome = .error e) :
    e.category ∈ Category.engineTree := by
  by_cases hl : ClientState.maxPassword < password.length
  · rw [start_of_long hl] at h
    cases h
    exact List.elem_iff.mp rfl
  · rw [start_error_of_le (Nat.not_lt.mp hl)] at h
    rcases Oprf.exists_of_blind_error h with ⟨fault, rfl⟩ | rfl
    · cases fault <;> exact List.elem_iff.mp rfl
    · decide

end Client

namespace Text

theorem firstSurrogates?_eq_none {t : Text} (h : ∀ c ∈ t, ¬c.IsSurrogate) : t.firstSurrogates? = none := by
  have hrest : t.dropWhile (fun c => ¬c.IsSurrogate) = [] := by
    rw [List.dropWhile_eq_nil_iff]
    exact fun c hc => decide_eq_true (h c hc)
  rw [firstSurrogates?, hrest]

theorem firstSurrogates?_append (before : Text) (c : CodePoint) (rest : Text) (hb : ∀ d ∈ before, ¬d.IsSurrogate)
    (hc : c.IsSurrogate) :
    (before ++ c :: rest).firstSurrogates? =
      some ⟨before.length, 1 + (rest.takeWhile fun d => d.IsSurrogate).length, c⟩ := by
  have hplain : ∀ d ∈ before, decide ¬d.IsSurrogate := fun d hd => decide_eq_true (hb d hd)
  have htake : (before ++ c :: rest).takeWhile (fun d => ¬d.IsSurrogate) = before := by
    rw [List.takeWhile_append_of_pos hplain]
    simp [hc]
  have hdrop : (before ++ c :: rest).dropWhile (fun d => ¬d.IsSurrogate) = c :: rest := by
    rw [List.dropWhile_append_of_pos hplain]
    simp [hc]
  rw [firstSurrogates?, htake, hdrop]

theorem utf8_of_plain {t : Text} (h : ∀ c ∈ t, ¬c.IsSurrogate) : t.utf8 = .ok (t.flatMap CodePoint.utf8) := by
  rw [utf8, firstSurrogates?_eq_none h]

theorem exists_append_of_surrogate {t : Text} (h : ¬∀ c ∈ t, ¬c.IsSurrogate) :
    ∃ before c rest, t = before ++ c :: rest ∧ (∀ d ∈ before, ¬d.IsSurrogate) ∧ c.IsSurrogate := by
  induction t with
  | nil => exact absurd (List.forall_mem_nil _) h
  | cons c t ih =>
      by_cases hc : c.IsSurrogate
      · exact ⟨[], c, t, rfl, List.forall_mem_nil _, hc⟩
      · rw [List.forall_mem_cons] at h
        obtain ⟨before, d, rest, rfl, hb, hd⟩ := ih fun ht => h ⟨hc, ht⟩
        exact ⟨c :: before, d, rest, rfl, List.forall_mem_cons.mpr ⟨hc, hb⟩, hd⟩

end Text

namespace Host

variable {suite : CipherSuite} {source : RandomSource}

theorem start_of_utf8 {t : Text} {octets : Bytes} (h : t.utf8 = .ok octets) :
    (start suite source (.value (.string t))).outcome =
      (Client.start suite source octets).outcome >>= fun started =>
        started.state.encode >>= fun state => .ok ⟨started, started.request.encode, state⟩ := by
  rw [start_outcome, Password.toOctets, h, mapError_ok, ok_bind]

theorem start_error_iff {t : Text} {octets : Bytes} (h : t.utf8 = .ok octets) (e : Error) :
    (start suite source (.value (.string t))).outcome = .error e ↔
      (Client.start suite source octets).outcome = .error e := by
  rw [start_of_utf8 h]
  cases hs : (Client.start suite source octets).outcome with
  | error e' => rw [error_bind, Except.error.injEq, Except.error.injEq]
  | ok started =>
      obtain ⟨_, _, state, he, _⟩ := Client.exists_state hs
      rw [ok_bind, he, ok_bind]
      simp

theorem start_of_surrogate (before : Text) (c : CodePoint) (rest : Text) (hb : ∀ d ∈ before, ¬d.IsSurrogate)
    (hc : c.IsSurrogate) :
    (start suite source (.value (.string (before ++ c :: rest)))).outcome =
      .error (.argument (.surrogates ⟨before.length, 1 + (rest.takeWhile fun d => d.IsSurrogate).length, c⟩)) := by
  have hu := Text.firstSurrogates?_append before c rest hb hc
  rw [start_outcome, Password.toOctets, Text.utf8, hu]
  rfl

def Typed {α : Type} (x : Except Error α) : Prop := ∀ e, x = .error e → e.category ∈ Category.engineTree

theorem typed_start_iff (t : Text) :
    Typed (start suite source (.value (.string t))).outcome ↔ ∀ c ∈ t, ¬c.IsSurrogate := by
  constructor
  · intro htyped
    by_contra h
    obtain ⟨before, c, rest, rfl, hb, hc⟩ := Text.exists_append_of_surrogate h
    have hforeign : Category.unencodable ∉ Category.engineTree := by decide
    exact hforeign (htyped _ (start_of_surrogate before c rest hb hc))
  · intro h e he
    rw [start_error_iff (Text.utf8_of_plain h)] at he
    exact Client.category_mem_of_start he

/-- A text fails to start a registration with errors of the engine if and only if no surrogate stands in it. Where none
does, texts of one length fail alike; and where one does, the error has its number and its place. -/
theorem start_of_text (suite : CipherSuite) (source : RandomSource) (t : Text) :
    (Typed (start suite source (.value (.string t))).outcome ↔ ∀ c ∈ t, ¬c.IsSurrogate) ∧
      (∀ t' octets octets', t.utf8 = .ok octets → t'.utf8 = .ok octets' → octets.length = octets'.length →
        FailAlike (start suite source (.value (.string t))).outcome
          (start suite source (.value (.string t'))).outcome) ∧
      ∀ before c rest, t = before ++ c :: rest → (∀ d ∈ before, ¬d.IsSurrogate) → c.IsSurrogate →
        (start suite source (.value (.string t))).outcome =
          .error (.argument (.surrogates
            ⟨before.length, 1 + (rest.takeWhile fun d => d.IsSurrogate).length, c⟩)) := by
  refine ⟨typed_start_iff t, ?_, ?_⟩
  · intro t' octets octets' h h' hl e e' he he'
    rw [start_error_iff h] at he
    rw [start_error_iff h'] at he'
    exact Client.start_failAlike hl e e' he he'
  · intro before c rest ht hb hc
    rw [ht]
    exact start_of_surrogate before c rest hb hc

def sampleSilence : RandomSource := fun _ _ => .raised "no entropy"

theorem start_of_text_sample :
    Typed (start Residues.sampleSuite Residues.sampleSource (.value (.string "pw"))).outcome ∧
      FailAlike (start Residues.sampleSuite sampleSilence (.value (.string "pw"))).outcome
        (start Residues.sampleSuite sampleSilence (.value (.string "\u00e9"))).outcome ∧
      (start Residues.sampleSuite sampleSilence (.value (.string "pw"))).outcome =
        .error (.randomSource (.unavailable "no entropy")) ∧
      (start Residues.sampleSuite sampleSilence (.value (.string [0x70, 0xDFFF, 0xD800]))).outcome =
        .error (.argument (.surrogates ⟨1, 2, 0xDFFF⟩)) := by
  obtain ⟨htyped, _⟩ := start_of_text Residues.sampleSuite Residues.sampleSource "pw"
  obtain ⟨_, halike, _⟩ := start_of_text Residues.sampleSuite sampleSilence "pw"
  obtain ⟨_, _, hplace⟩ := start_of_text Residues.sampleSuite sampleSilence [0x70, 0xDFFF, 0xD800]
  refine ⟨htyped.mpr (Text.not_isSurrogate_ofString "pw"), halike "\u00e9" _ _ rfl rfl rfl, by decide +kernel, ?_⟩
  exact hplace [0x70] 0xDFFF [0xD800] rfl (List.forall_mem_singleton.mpr (by decide)) (by decide)

/-- Two texts of the same code points: neither failure is one of the engine, and they differ by the place of the
surrogate. -/
theorem start_tells_place :
    ¬Typed (start CipherSuite.standard Residues.sampleSource (.value (.string [0x61, 0xD800]))).outcome ∧
      ¬FailAlike (start CipherSuite.standard Residues.sampleSource (.value (.string [0x61, 0xD800]))).outcome
        (start CipherSuite.standard Residues.sampleSource (.value (.string [0xD800, 0x61]))).outcome ∧
      (Error.argument (.surrogates ⟨1, 1, 0xD800⟩)).message =
        "'utf-8' codec can't encode character '\\ud800' in position 1: surrogates not allowed" := by
  have hlast : (start CipherSuite.standard Residues.sampleSource (.value (.string [0x61, 0xD800]))).outcome =
      .error (.argument (.surrogates ⟨1, 1, 0xD800⟩)) := rfl
  have hfirst : (start CipherSuite.standard Residues.sampleSource (.value (.string [0xD800, 0x61]))).outcome =
      .error (.argument (.surrogates ⟨0, 1, 0xD800⟩)) := rfl
  refine ⟨fun htyped => absurd (htyped _ hlast) (by decide), fun halike => ?_, by decide +kernel⟩
  exact absurd (halike _ _ hlast hfirst) (by decide)

end Host

end PakeRegistration
