import PakeRegistration.Proofs.Client
import PakeRegistration.Proofs.Residues
import PakeRegistration.Proofs.Validation

/-!
The search for a blind, draw by draw. A draw of octets that stand for zero is thrown away with a note; any other one
ends the search. Main statement: how many draws there are and what comes of them is decided by the first one that is
not thrown away.
-/

namespace PakeRegistration

namespace RandomSource

theorem accept_octets {octets : Bytes} (h : octets.length = 64) : accept 64 (.octets octets) = .ok octets := by
  have hl : (octets.length : Int) = 64 := by omega
  rw [accept, if_pos hl]

theorem accept_octets_of_ne {octets : Bytes} (h : octets.length ≠ 64) :
    accept 64 (.octets octets) = .error (.malformed 64) := by
  have hl : (octets.length : Int) ≠ 64 := by omega
  rw [accept, if_neg hl]

end RandomSource

namespace Oprf

open Outcome

def scalarOf (d : Draw) : Except RandomSourceError Bytes :=
  (RandomSource.accept 64 d).map fun octets => Scalar.ofNat (Bytes.toNatLE octets)

theorem scalarOf_octets {octets : Bytes} (h : octets.length = 64) :
    scalarOf (.octets octets) = .ok (Scalar.ofNat (Bytes.toNatLE octets)) := by
  rw [scalarOf, RandomSource.accept_octets h]
  rfl

theorem scalarOf_octets_of_ne {octets : Bytes} (h : octets.length ≠ 64) :
    scalarOf (.octets octets) = .error (.malformed 64) := by
  rw [scalarOf, RandomSource.accept_octets_of_ne h]
  rfl

theorem randomScalar_eq (source : RandomSource) (call : Nat) :
    randomScalar source call = ⟨[.drew 64], (scalarOf (source call 64)).mapError .randomSource⟩ := by
  have hdraw : randomScalar source call =
      (⟨[.drew 64], (RandomSource.accept 64 (source call 64)).mapError .randomSource⟩ : Run Bytes) >>=
        fun octets => liftM (Scalar.reduce octets) := rfl
  rw [hdraw]
  cases source call 64 with
  | raised text | malformed => rfl
  | octets octets =>
      by_cases hl : octets.length = 64
      · have hreduce : Scalar.reduce octets = .ok (Scalar.ofNat (Bytes.toNatLE octets)) := if_pos hl
        rw [scalarOf_octets hl, RandomSource.accept_octets hl, Run.bind_of_ok (a := octets) rfl, hreduce]
        rfl
      · rw [scalarOf_octets_of_ne hl, RandomSource.accept_octets_of_ne hl]
        rfl

section

variable {G : PrimeGroup} {source : RandomSource} {input : Bytes} {attempt : Nat}

theorem attempts_of_error {e : RandomSourceError} (h : scalarOf (source attempt 64) = .error e) (remaining : Nat) :
    attempts G source input attempt (remaining + 1) = ⟨[.drew 64], .error (.randomSource e)⟩ := by
  rw [attempts, randomScalar_eq, h]
  rfl

theorem attempts_of_unusable {scalar : Bytes} (h : scalarOf (source attempt 64) = .ok scalar)
    (hu : scalar = Scalar.zero ∨ input = PrimeGroup.identity) (remaining : Nat) :
    attempts G source input attempt (remaining + 1) =
      ⟨.drew 64 :: .noted (.unusableBlind attempt) :: (attempts G source input (attempt + 1) remaining).events,
        (attempts G source input (attempt + 1) remaining).outcome⟩ := by
  rw [attempts, randomScalar_eq, h, Run.bind_of_ok (a := scalar) rfl, if_pos hu]
  rfl

theorem attempts_of_product {scalar element : Bytes} (h : scalarOf (source attempt 64) = .ok scalar)
    (hu : ¬(scalar = Scalar.zero ∨ input = PrimeGroup.identity)) (hm : G.multiply scalar input = .ok element)
    (remaining : Nat) :
    attempts G source input attempt (remaining + 1) = ⟨[.drew 64], .ok (some ⟨scalar, element⟩)⟩ := by
  rw [attempts, randomScalar_eq, h, Run.bind_of_ok (a := scalar) rfl, if_neg hu, hm]
  rfl

theorem attempts_of_rejected {scalar : Bytes} {e : ProtocolError} (h : scalarOf (source attempt 64) = .ok scalar)
    (hu : ¬(scalar = Scalar.zero ∨ input = PrimeGroup.identity)) (hm : G.multiply scalar input = .error e)
    (remaining : Nat) :
    attempts G source input attempt (remaining + 1) =
      ⟨.drew 64 :: .noted (.rejectedBlind attempt) :: (attempts G source input (attempt + 1) remaining).events,
        (attempts G source input (attempt + 1) remaining).outcome⟩ := by
  rw [attempts, randomScalar_eq, h, Run.bind_of_ok (a := scalar) rfl, if_neg hu, hm]
  rfl

/-- A draw that is thrown away: its octets stand for zero, or the input cannot be blinded at all. -/
def Wasted (input : Bytes) (d : Draw) : Prop :=
  ∃ octets, d = .octets octets ∧ octets.length = 64 ∧
    (Scalar.order ∣ Bytes.toNatLE octets ∨ input = PrimeGroup.identity)

theorem exists_scalarOf_of_wasted {d : Draw} (h : Wasted input d) :
    ∃ scalar, scalarOf d = .ok scalar ∧ (scalar = Scalar.zero ∨ input = PrimeGroup.identity) := by
  obtain ⟨octets, rfl, hl, hu⟩ := h
  refine ⟨_, scalarOf_octets hl, ?_⟩
  rwa [Scalar.ofNat_eq_zero_iff]

def wasted (attempt : Nat) : (count : Nat) → List Event
  | 0 => []
  | count + 1 => .drew 64 :: .noted (.unusableBlind attempt) :: wasted (attempt + 1) count

theorem attempts_add (count remaining : Nat)
    (h : ∀ call, attempt ≤ call → call < attempt + count → Wasted input (source call 64)) :
    attempts G source input attempt (count + remaining) =
      ⟨wasted attempt count ++ (attempts G source input (attempt + count) remaining).events,
        (attempts G source input (attempt + count) remaining).outcome⟩ := by
  induction count generalizing attempt with
  | zero => rw [Nat.zero_add]; rfl
  | succ count ih =>
      obtain ⟨scalar, hs, hu⟩ := exists_scalarOf_of_wasted (h attempt (Nat.le_refl _) (by omega))
      have hnext := @ih (attempt + 1) fun call hl hr => h call (by omega) (by omega)
      have hremaining : count + 1 + remaining = count + remaining + 1 := by omega
      have hattempt : attempt + 1 + count = attempt + (count + 1) := by omega
      rw [hremaining, attempts_of_unusable hs hu, hnext, hattempt]
      rfl

theorem draws_wasted_append {α : Type} (attempt count : Nat) (rest : List Event) (outcome : Except Error α) :
    (⟨wasted attempt count ++ rest, outcome⟩ : Run α).draws =
      List.replicate count 64 ++ (⟨rest, outcome⟩ : Run α).draws := by
  induction count generalizing attempt with
  | zero => rfl
  | succ count ih => exact congrArg (64 :: ·) (ih (attempt + 1))

theorem notes_wasted_append {α : Type} (attempt count : Nat) (rest : List Event) (outcome : Except Error α) :
    (⟨wasted attempt count ++ rest, outcome⟩ : Run α).notes =
      (List.range' attempt count).map .unusableBlind ++ (⟨rest, outcome⟩ : Run α).notes := by
  induction count generalizing attempt with
  | zero => rfl
  | succ count ih => exact congrArg (Note.unusableBlind attempt :: ·) (ih (attempt + 1))

/-- Whatever the draws and the products are, no attempt draws twice. -/
theorem attempts_draws (remaining : Nat) :
    ∃ calls, calls ≤ remaining ∧ (attempts G source input attempt remaining).draws = List.replicate calls 64 := by
  induction remaining generalizing attempt with
  | zero => exact ⟨0, Nat.le_refl 0, rfl⟩
  | succ remaining ih =>
      obtain ⟨calls, hle, hcalls⟩ := @ih (attempt + 1)
      cases hs : scalarOf (source attempt 64) with
      | error e =>
          rw [attempts_of_error hs]
          exact ⟨1, by omega, rfl⟩
      | ok scalar =>
          by_cases hu : scalar = Scalar.zero ∨ input = PrimeGroup.identity
          · rw [attempts_of_unusable hs hu]
            exact ⟨calls + 1, by omega, congrArg (64 :: ·) hcalls⟩
          · cases hm : G.multiply scalar input with
            | ok element =>
                rw [attempts_of_product hs hu hm]
                exact ⟨1, by omega, rfl⟩
            | error e =>
                rw [attempts_of_rejected hs hu hm]
                exact ⟨calls + 1, by omega, congrArg (64 :: ·) hcalls⟩

variable {password : Bytes} {limit : Int}

theorem blind_of_attempts (hi : hashToGroup G password = .ok input) {events : List Event}
    {outcome : Except Error (Option Blinded)}
    (h : attempts G source input 1 limit.toNat = ⟨events, outcome⟩) :
    blind G source password limit =
      ⟨events, outcome >>= fun
        | some found => .ok found
        | none => .error (.protocol (.blindExhausted limit))⟩ := by
  rw [blind, hi, Run.lift_range_ok_bind, h]
  rcases outcome with e | _ | found
  · rfl
  · exact congrArg (Run.mk · _) (List.append_nil events)
  · exact congrArg (Run.mk · _) (List.append_nil events)

/-- A search that ends after so many draws, each for as many octets as a scalar is reduced from, of which the first
ones are thrown away with a note each. -/
structure Ends (x : Run Blinded) (calls discarded : Nat) (outcome : Except Error Blinded) : Prop where
  draws : x.draws = List.replicate calls 64
  notes : x.notes = (List.range' 1 discarded).map .unusableBlind
  outcome : x.outcome = outcome

def Reached (source : RandomSource) (input : Bytes) (limit : Int) (call : Nat) : Prop :=
  1 ≤ call ∧ call ≤ limit ∧ ∀ earlier, 1 ≤ earlier → earlier < call → Wasted input (source earlier 64)

theorem wasted_or_reached (source : RandomSource) (input : Bytes) (limit : Int) :
    (∀ call : Nat, 1 ≤ call → call ≤ limit → Wasted input (source call 64)) ∨
      ∃ call, Reached source input limit call ∧ ¬Wasted input (source call 64) := by
  classical
  by_cases h : ∃ call : Nat, 1 ≤ call ∧ call ≤ limit ∧ ¬Wasted input (source call 64)
  · obtain ⟨hpos, hle, hw⟩ := Nat.find_spec h
    refine Or.inr ⟨Nat.find h, ⟨hpos, hle, fun earlier hearlier hlt => ?_⟩, hw⟩
    by_contra hne
    exact Nat.find_min h hlt ⟨hearlier, by omega, hne⟩
  · refine Or.inl fun call hpos hle => ?_
    by_contra hne
    exact h ⟨call, hpos, hle, hne⟩

theorem ends_of_wasted (hi : hashToGroup G password = .ok input)
    (h : ∀ call : Nat, 1 ≤ call → call ≤ limit → Wasted input (source call 64)) :
    Ends (blind G source password limit) limit.toNat limit.toNat (.error (.protocol (.blindExhausted limit))) := by
  have hattempts := attempts_add (G := G) limit.toNat 0 fun call hl hr => h call hl (by omega)
  rw [blind_of_attempts hi hattempts]
  constructor
  · rw [draws_wasted_append]
    exact List.append_nil _
  · rw [notes_wasted_append]
    exact List.append_nil _
  · rfl

theorem ends_of_reached (hi : hashToGroup G password = .ok input) {call : Nat} (hr : Reached source input limit call)
    {outcome : Except Error Blinded}
    (h : ∀ remaining, attempts G source input call (remaining + 1) = ⟨[.drew 64], outcome.map some⟩) :
    Ends (blind G source password limit) call (call - 1) outcome := by
  obtain ⟨hpos, hlimit, hw⟩ := hr
  obtain ⟨before, rfl⟩ : ∃ before, call = 1 + before := Nat.exists_eq_add_of_le hpos
  obtain ⟨after, hafter⟩ : ∃ after, limit.toNat = before + (after + 1) := ⟨limit.toNat - before - 1, by omega⟩
  have hattempts := attempts_add (G := G) before (after + 1) hw
  rw [h, ← hafter] at hattempts
  rw [blind_of_attempts hi hattempts, Nat.add_sub_cancel_left]
  constructor
  · rw [draws_wasted_append, Nat.add_comm]
    exact List.replicate_succ'.symm
  · rw [notes_wasted_append]
    exact List.append_nil _
  · cases outcome <;> rfl

end

/-- What blinding does is decided by the first draw that is not thrown away, whatever the calls after it would give. -/
structure FirstUsable (G : PrimeGroup) (source : RandomSource) (password input : Bytes) (limit : Int) : Prop where
  decided : (∀ call : Nat, 1 ≤ call → call ≤ limit → Wasted input (source call 64)) ∨
    ∃ call, Reached source input limit call ∧ ¬Wasted input (source call 64)
  exhausted (h : ∀ call : Nat, 1 ≤ call → call ≤ limit → Wasted input (source call 64)) :
    Ends (blind G source password limit) limit.toNat limit.toNat (.error (.protocol (.blindExhausted limit)))
  raised (call : Nat) (text : Text) (hr : Reached source input limit call) (h : source call 64 = .raised text) :
    Ends (blind G source password limit) call (call - 1) (.error (.randomSource (.unavailable text)))
  malformed (call : Nat) (hr : Reached source input limit call) (h : source call 64 = .malformed) :
    Ends (blind G source password limit) call (call - 1) (.error (.randomSource (.malformed 64)))
  wrongLength (call : Nat) (octets : Bytes) (hr : Reached source input limit call)
    (h : source call 64 = .octets octets) (hl : octets.length ≠ 64) :
    Ends (blind G source password limit) call (call - 1) (.error (.randomSource (.malformed 64)))
  blinded (call : Nat) (octets : Bytes) (hr : Reached source input limit call) (h : source call 64 = .octets octets)
    (hl : octets.length = 64) (hd : ¬Scalar.order ∣ Bytes.toNatLE octets) (hne : input ≠ PrimeGroup.identity) :
    ∃ scalar element, scalar = Bytes.ofNatLE 32 (Bytes.toNatLE octets % Scalar.order) ∧ Scalar.Canonical scalar ∧
      G.multiply scalar input = .ok element ∧
      Ends (blind G source password limit) call (call - 1) (.ok ⟨scalar, element⟩)

theorem firstUsable {G : PrimeGroup} (hG : G.Lawful) (source : RandomSource) {password input : Bytes}
    (hi : hashToGroup G password = .ok input) (limit : Int) : FirstUsable G source password input limit where
  decided := wasted_or_reached source input limit
  exhausted := ends_of_wasted hi
  raised call text hr h := ends_of_reached hi hr (attempts_of_error (by rw [h]; rfl))
  malformed call hr h := ends_of_reached hi hr (attempts_of_error (by rw [h]; rfl))
  wrongLength call octets hr h hl :=
    ends_of_reached hi hr (attempts_of_error (by rw [h, scalarOf_octets_of_ne hl]))
  blinded call octets hr h hl hd hne := by
    obtain ⟨E, _, ⟨I⟩⟩ := hG
    obtain ⟨uniform, hu, hi'⟩ := exists_hashToGroup G password
    obtain ⟨P, hP⟩ := I.ofUniform_eq uniform hu
    obtain rfl : input = I.encode P := by rw [hi', hP] at hi; exact (Except.ok.inj hi).symm
    have hmultiple := I.multiply_encode _ P hd fun hz => hne ((I.encode_eq_identity_iff P).mpr hz)
    have hscalar : scalarOf (source call 64) = .ok (Scalar.ofNat (Bytes.toNatLE octets)) := by
      rw [h, scalarOf_octets hl]
    have husable : ¬(Scalar.ofNat (Bytes.toNatLE octets) = Scalar.zero ∨ I.encode P = PrimeGroup.identity) := by
      rw [Scalar.ofNat_eq_zero_iff]
      exact not_or.mpr ⟨hd, hne⟩
    exact ⟨_, _, rfl, Scalar.canonical_ofNat _ hd, hmultiple,
      ends_of_reached hi hr (attempts_of_product hscalar husable hmultiple)⟩

end Oprf

namespace Client

theorem start_draws (suite : CipherSuite) (source : RandomSource) (password : Bytes)
    (h : password.length ≤ ClientState.maxPassword) :
    (start suite source password).draws = (Oprf.blind suite.group source password 8).draws := by
  rw [start, if_neg (Nat.not_lt.mpr h), Run.draws_bind _ _ fun _ => rfl]
  rfl

theorem exists_start_draws (suite : CipherSuite) (source : RandomSource) (password : Bytes) :
    ∃ calls, calls ≤ 8 ∧ (start suite source password).draws = List.replicate calls 64 := by
  by_cases h : ClientState.maxPassword < password.length
  · rw [start, if_pos h]
    exact ⟨0, by omega, rfl⟩
  · rw [start_draws suite source password (Nat.not_lt.mp h)]
    obtain ⟨uniform, _, hi⟩ := Oprf.exists_hashToGroup suite.group password
    rw [Oprf.blind_of_attempts hi rfl]
    exact Oprf.attempts_draws (8 : Int).toNat

end Client

end PakeRegistration
