import PakeRegistration.Proofs.Blinding
import PakeRegistration.Proofs.KeySearch
import PakeRegistration.Proofs.TwoRuns

/-!
What is seen of the two halves of a registration. Each half has an image without secrets: a run that is made from what
is public and from one thing more, for the first half whether the password is hashed to the identity, for the second
half how many zero scalars come before the private key.
-/

namespace PakeRegistration

inductive Draw.Kind
  | raised (text : Text)
  | malformed
  | zero
  | nonzero
deriving DecidableEq

def Draw.kind : Draw → Draw.Kind
  | .raised text => .raised text
  | .malformed => .malformed
  | .octets drawn =>
      if drawn.length ≠ 64 then .malformed
      else if Bytes.toNatLE drawn % Scalar.order = 0 then .zero
      else .nonzero

def RandomSource.kinds (source : RandomSource) (call : Nat) : Draw.Kind :=
  (source call 64).kind

namespace Oprf

def drawSeen : Draw.Kind → Run Bool
  | .raised text => ⟨[.drew 64], .error (.randomSource (.unavailable text))⟩
  | .malformed => ⟨[.drew 64], .error (.randomSource (.malformed 64))⟩
  | .zero => ⟨[.drew 64], .ok false⟩
  | .nonzero => ⟨[.drew 64], .ok true⟩

/-- Attempts for an input that is the identity or is not, until a draw can be used. -/
def attemptsSeen (kinds : Nat → Draw.Kind) (identity : Bool) (attempt : Nat) : (remaining : Nat) → Run Bool
  | 0 => return false
  | remaining + 1 => do
      let usable ← drawSeen (kinds attempt)
      if usable = true ∧ identity = false then return true
      else
        Run.note (.unusableBlind attempt)
        attemptsSeen kinds identity (attempt + 1) remaining

def blindSeen (kinds : Nat → Draw.Kind) (identity : Bool) (limit : Int) : Run Unit := do
  if ← attemptsSeen kinds identity 1 limit.toNat then return ()
  else Run.fail (.protocol (.blindExhausted limit))

/-- The password is hashed to the identity, which no scalar blinds. -/
def Unblindable (G : PrimeGroup) (password : Bytes) : Prop :=
  hashToGroup G password = .ok PrimeGroup.identity

instance (G : PrimeGroup) (password : Bytes) : Decidable (Unblindable G password) :=
  inferInstanceAs (Decidable (_ = _))

def Blinds (scalar : Bytes) : (usable : Bool) → Prop
  | true => Scalar.Canonical scalar
  | false => scalar = Scalar.zero

theorem alike_scalarOf (d : Draw) :
    Run.Alike Blinds ⟨[.drew 64], (scalarOf d).mapError .randomSource⟩ (drawSeen d.kind) := by
  rcases d with text | _ | drawn
  · exact ⟨rfl, .error _⟩
  · exact ⟨rfl, .error _⟩
  · by_cases hl : drawn.length = 64
    · rw [scalarOf_octets hl]
      by_cases hd : Bytes.toNatLE drawn % Scalar.order = 0
      · rw [Draw.kind, if_neg (not_not.mpr hl), if_pos hd]
        exact ⟨rfl, .ok ((Scalar.ofNat_eq_zero_iff _).mpr (Nat.dvd_of_mod_eq_zero hd))⟩
      · rw [Draw.kind, if_neg (not_not.mpr hl), if_neg hd]
        exact ⟨rfl, .ok (Scalar.canonical_ofNat _ fun h => hd (Nat.mod_eq_zero_of_dvd h))⟩
    · rw [scalarOf_octets_of_ne hl, Draw.kind, if_pos hl]
      exact ⟨rfl, .error _⟩

theorem alike_randomScalar (source : RandomSource) (call : Nat) :
    Run.Alike Blinds (randomScalar source call) (drawSeen (source.kinds call)) := by
  rw [randomScalar_eq]
  exact alike_scalarOf _

section

variable {G : PrimeGroup} {E : Type} [AddCommGroup E] (I : G.Interpretation E)

include I

theorem exists_multiply {scalar : Bytes} (hs : Scalar.Canonical scalar) {P : E}
    (hP : I.encode P ≠ PrimeGroup.identity) : ∃ element, G.multiply scalar (I.encode P) = .ok element := by
  obtain ⟨n, hn, rfl⟩ := hs.exists_ofNat
  exact ⟨_, I.multiply_encode n P hn fun hz => hP ((I.encode_eq_identity_iff P).mpr hz)⟩

theorem alike_attempts (source : RandomSource) (P : E) (attempt remaining : Nat) :
    Run.Alike (fun found seen => found.isSome = seen) (attempts G source (I.encode P) attempt remaining)
      (attemptsSeen source.kinds (decide (I.encode P = PrimeGroup.identity)) attempt remaining) := by
  induction remaining generalizing attempt with
  | zero => exact Run.alike_pure rfl
  | succ remaining ih =>
      rw [attempts, attemptsSeen]
      refine (alike_randomScalar source attempt).bind fun scalar usable husable => ?_
      cases usable with
      | false =>
          have hzero : scalar = Scalar.zero := husable
          rw [if_pos (Or.inl hzero), if_neg (by simp)]
          exact Run.alike_note_bind _ (ih (attempt + 1))
      | true =>
          have hscalar : Scalar.Canonical scalar := husable
          by_cases hP : I.encode P = PrimeGroup.identity
          · rw [if_pos (Or.inr hP), if_neg (by simp [hP])]
            exact Run.alike_note_bind _ (ih (attempt + 1))
          · obtain ⟨_, hm⟩ := exists_multiply I hscalar hP
            rw [if_neg (not_or.mpr ⟨hscalar.ne_zero, hP⟩), if_pos (by simp [hP]), hm]
            exact Run.alike_pure rfl

theorem alike_blind (source : RandomSource) (password : Bytes) (limit : Int) :
    Run.Alike (fun _ _ => True) (blind G source password limit)
      (blindSeen source.kinds (decide (Unblindable G password)) limit) := by
  obtain ⟨uniform, hu, hi⟩ := exists_hashToGroup G password
  obtain ⟨P, hP⟩ := I.ofUniform_eq uniform hu
  rw [hP] at hi
  have hidentity : decide (Unblindable G password) = decide (I.encode P = PrimeGroup.identity) := by
    simp only [Unblindable, hi, Except.ok.injEq]
  rw [blind, hi, Run.lift_range_ok_bind, hidentity, blindSeen]
  refine (alike_attempts I source P 1 limit.toNat).bind fun found seen hfound => ?_
  cases found with
  | none =>
      obtain rfl : false = seen := hfound
      exact Run.alike_fail _
  | some =>
      obtain rfl : true = seen := hfound
      exact Run.alike_pure trivial

end

end Oprf

namespace Client

/-- The first half of a registration, for a password of this length that is hashed to the identity or is not. -/
def startSeen (kinds : Nat → Draw.Kind) (length : Nat) (identity : Bool) : Run Unit := do
  if ClientState.maxPassword < length then Run.fail (.protocol (.passwordTooLong length))
  else
    Oprf.blindSeen kinds identity Oprf.maxAttempts
    Run.note (.started Oprf.suiteIdentifier)

theorem start_seen {suite : CipherSuite} {E : Type} [AddCommGroup E] (I : suite.group.Interpretation E)
    (source : RandomSource) (password : Bytes) :
    (start suite source password).seen =
      startSeen source.kinds password.length (decide (Oprf.Unblindable suite.group password)) := by
  apply Run.Alike.seen_eq (R := fun _ _ => True)
  rw [start, startSeen]
  by_cases hp : ClientState.maxPassword < password.length
  · rw [if_pos hp, if_pos hp]
    exact Run.alike_fail _
  · rw [if_neg hp, if_neg hp]
    exact (Oprf.alike_blind I source password Oprf.maxAttempts).bind fun _ _ _ => ⟨rfl, .ok trivial⟩

end Client

namespace KeyPair

def skipped (input : Bytes) (counter : Nat) : (remaining : Nat) → Nat
  | 0 => 0
  | remaining + 1 =>
      if scalarAt input counter = .ok Scalar.zero then skipped input (counter + 1) remaining + 1 else 0

/-- The number of zero scalars that come before the private key of a seed. -/
def passedOver (seed : Bytes) : Nat :=
  skipped (seedInput seed defaultInfo) 0 counters

theorem skipped_le (input : Bytes) (counter remaining : Nat) : skipped input counter remaining ≤ remaining := by
  induction remaining generalizing counter with
  | zero => exact Nat.le_refl 0
  | succ remaining ih =>
      rw [skipped]
      split
      · exact Nat.succ_le_succ (ih (counter + 1))
      · exact Nat.zero_le _

/-- A search that passes so many counters over, and fails when these are all that remain. -/
def searchSeen (counter skipped remaining : Nat) : Run Unit :=
  ⟨passed counter skipped, if skipped < remaining then .ok () else .error (.protocol .keyPairExhausted)⟩

theorem alike_firstScalar (input : Bytes) (counter remaining : Nat) (hc : counter + remaining ≤ 256) :
    Run.Alike (fun scalar _ => Scalar.Canonical scalar) (firstScalar input counter remaining)
      (searchSeen counter (skipped input counter remaining) remaining) := by
  induction remaining generalizing counter with
  | zero => exact ⟨rfl, .error _⟩
  | succ remaining ih =>
      obtain ⟨n, hn⟩ := exists_scalarAt input counter
      by_cases hz : Scalar.ofNat n = Scalar.zero
      · rw [hz] at hn
        obtain ⟨hevents, houtcome⟩ := ih (counter + 1) (by omega)
        rw [firstScalar_of_zero (by omega) hn, skipped, if_pos hn, searchSeen, passed_succ]
        refine ⟨congrArg (Event.noted (.zeroDerivation counter) :: ·) hevents, ?_⟩
        simpa only [searchSeen, Nat.add_lt_add_iff_right] using houtcome
      · have hne : scalarAt input counter ≠ .ok Scalar.zero := by
          rw [hn, ne_eq, Except.ok.injEq]
          exact hz
        rw [firstScalar_of_ne_zero (by omega) hn hz, skipped, if_neg hne]
        rw [Scalar.ofNat_eq_zero_iff] at hz
        exact ⟨rfl, .ok (Scalar.canonical_ofNat n hz)⟩

theorem First.passedOver_eq {seed scalar : Bytes} {counter : Nat} (h : First seed defaultInfo counter scalar) :
    passedOver seed = counter := by
  obtain ⟨hevents, -⟩ := alike_firstScalar (seedInput seed defaultInfo) 0 counters (Nat.le_refl _)
  rw [h.firstScalar_eq] at hevents
  have hlength := congrArg List.length hevents
  simp only [searchSeen, passed, List.length_map, List.length_range'] at hlength
  exact hlength.symm

theorem alike_derive {G : PrimeGroup} {E : Type} [AddCommGroup E] (I : G.Interpretation E) (seed : Bytes) :
    Run.Alike (fun _ _ => True) (derive G seed defaultInfo) (searchSeen 0 (passedOver seed) counters) := by
  rw [derive_eq G seed (by decide)]
  refine (alike_firstScalar (seedInput seed defaultInfo) 0 counters (Nat.le_refl _)).bind_pure fun scalar _ hs => ?_
  obtain ⟨n, hn, rfl⟩ := hs.exists_ofNat
  rw [I.multiplyBase_ofNat n hn]
  exact ⟨_, rfl, trivial⟩

theorem passedOver_lt {G : PrimeGroup} {E : Type} [AddCommGroup E] (I : G.Interpretation E) {seed : Bytes}
    (h : Derivable seed defaultInfo) : passedOver seed < counters := by
  obtain ⟨n, -, ho⟩ := derive_of_derivable I seed defaultInfo (by decide) h
  have hseen := (alike_derive I seed).seen_eq
  have hok := Run.seen_of_ok ho
  rw [hseen, searchSeen] at hok
  by_contra hlt
  rw [if_neg hlt] at hok
  cases hok

end KeyPair

namespace Client

/-- The seed of the client's key pair, when there is an output and the slow hash takes it. -/
def seed (suite : CipherSuite) (state : ClientState) (response : RegistrationResponse) : Except Error Bytes := do
  let (password, _) ← state.consume
  let output ← Oprf.finalize suite.group password state.blind response.evaluatedElement
  let stretched ← SlowHash.hash suite.slowHash output
  return (Envelope.Keys.derive (Envelope.randomizePassword output stretched)).seed

/-- The number of zero scalars that finishing meets before the private key; none if it does not come to a seed. -/
def passedOver (suite : CipherSuite) (state : ClientState) (response : RegistrationResponse) : Nat :=
  match seed suite state response with
  | .ok seed => KeyPair.passedOver seed
  | .error _ => 0

theorem passedOver_le (suite : CipherSuite) (state : ClientState) (response : RegistrationResponse) :
    passedOver suite state response ≤ KeyPair.counters := by
  unfold passedOver
  split
  · exact KeyPair.skipped_le _ _ _
  · exact Nat.zero_le _

/-- The second half of a registration, for a key pair that comes after so many zero scalars. -/
def finishSeen (costs : Argon2.Parameters) (consumed : Bool) (passedOver : Nat) : Run Unit :=
  if consumed then Run.fail (.protocol .stateConsumed)
  else
    match costs.fault? with
    | some fault => Run.fail (.slowHash (.parameters fault))
    | none => do
        KeyPair.searchSeen 0 passedOver KeyPair.counters
        Run.note (.finished Envelope.size)

theorem seed_of_finalize {suite : CipherSuite} {blind password output : Bytes} {response : RegistrationResponse}
    (hf : Oprf.finalize suite.group password blind response.evaluatedElement = .ok output) :
    seed suite { blind := blind, password := password } response =
      (SlowHash.hash suite.slowHash output).mapError .slowHash >>= fun stretched =>
        .ok (Envelope.Keys.derive (Envelope.randomizePassword output stretched)).seed := by
  have hopen : seed suite { blind := blind, password := password } response =
      Oprf.finalize suite.group password blind response.evaluatedElement >>= fun output =>
        (SlowHash.hash suite.slowHash output).mapError .slowHash >>= fun stretched =>
          .ok (Envelope.Keys.derive (Envelope.randomizePassword output stretched)).seed := rfl
  rw [hopen, hf, Outcome.ok_bind]

theorem finish_eq_complete {suite : CipherSuite} {blind password output : Bytes} {response : RegistrationResponse}
    (hf : Oprf.finalize suite.group password blind response.evaluatedElement = .ok output) :
    (finish suite { blind := blind, password := password } response).2 =
      complete suite output response.serverPublicKey := by
  have hopen : (finish suite { blind := blind, password := password } response).2 =
      Run.ofExcept (Oprf.finalize suite.group password blind response.evaluatedElement) >>= fun output =>
        complete suite output response.serverPublicKey := rfl
  rw [hopen, hf, Run.ofExcept_ok_bind]

end Client

/-- A state that is used up, or one with a blind that can be inverted and a password that can be hashed. -/
def ClientState.Usable (t : ClientState) : Prop :=
  t.consumed = false → Scalar.Canonical t.blind ∧ t.password.length ≤ maxPassword

theorem Oprf.exists_finalize {G : PrimeGroup} {E : Type} [AddCommGroup E] (I : G.Interpretation E)
    {password blind evaluated : Bytes} (hp : password.length ≤ 65535) (hb : Scalar.Canonical blind)
    (he : G.Accepts evaluated) :
    ∃ output, output.length = SlowHash.inputSize ∧ finalize G password blind evaluated = .ok output := by
  obtain ⟨n, hn, rfl⟩ := hb.exists_ofNat
  obtain ⟨P, hP, rfl⟩ := I.exists_encode_of_accepts he
  obtain ⟨_, _, hf⟩ := finalize_encode I password hp n hn P hP
  exact ⟨_, Sha512.hash_length _, hf⟩

namespace Client

variable {suite : CipherSuite}

theorem passedOver_of_fault {blind password output : Bytes} {response : RegistrationResponse} {fault : Argon2.Fault}
    (hl : output.length = SlowHash.inputSize)
    (hf : Oprf.finalize suite.group password blind response.evaluatedElement = .ok output)
    (hp : suite.slowHash.fault? = some fault) :
    passedOver suite { blind := blind, password := password } response = 0 := by
  rw [passedOver, seed_of_finalize hf, SlowHash.hash_eq_error _ output hl fault hp]
  rfl

theorem passedOver_of_finalize {blind password output : Bytes} {response : RegistrationResponse}
    (hl : output.length = SlowHash.inputSize)
    (hf : Oprf.finalize suite.group password blind response.evaluatedElement = .ok output)
    (hp : suite.slowHash.fault? = none) :
    passedOver suite { blind := blind, password := password } response =
      KeyPair.passedOver (keysOf suite.slowHash output).seed := by
  rw [passedOver, seed_of_finalize hf, SlowHash.hash_eq _ output hl hp]
  rfl

variable {E : Type} [AddCommGroup E] (I : suite.group.Interpretation E)

include I

theorem alike_complete {output : Bytes} (hl : output.length = SlowHash.inputSize) (hp : suite.slowHash.fault? = none)
    (key : Bytes) :
    Run.Alike (fun _ _ => True) (complete suite output key)
      (KeyPair.searchSeen 0 (KeyPair.passedOver (keysOf suite.slowHash output).seed) KeyPair.counters >>= fun _ =>
        Run.note (.finished Envelope.size)) := by
  have hopen : complete suite output key =
      KeyPair.derive suite.group (keysOf suite.slowHash output).seed KeyPair.defaultInfo >>= fun pair => do
        let envelope := Envelope.create (keysOf suite.slowHash output) key pair.publicKey
        Run.note (.finished envelope.length)
        return ⟨⟨envelope, pair.publicKey⟩, (keysOf suite.slowHash output).exportKey⟩ := by
    rw [complete, SlowHash.hash_eq _ output hl hp]
    exact Run.ofExcept_ok_bind (Argon2.digest suite.slowHash output SlowHash.salt) _
  rw [hopen]
  refine (KeyPair.alike_derive I (keysOf suite.slowHash output).seed).bind fun pair _ _ => ?_
  -- the envelope's length is written down, and it is the same for all keys
  simp only [keysOf, Envelope.create_derive_length]
  exact ⟨rfl, .ok trivial⟩

theorem finish_seen {state : ClientState} {response : RegistrationResponse} (hs : state.Usable)
    (hr : suite.group.Accepts response.evaluatedElement) :
    (finish suite state response).2.seen =
      finishSeen suite.slowHash state.consumed (passedOver suite state response) := by
  rcases state with ⟨blind, password, consumed⟩
  cases consumed with
  | true => rfl
  | false =>
      obtain ⟨hblind, hpassword⟩ := hs rfl
      obtain ⟨output, hl, hf⟩ := Oprf.exists_finalize I hpassword hblind hr
      rw [finish_eq_complete hf, finishSeen, if_neg (by simp)]
      cases hp : suite.slowHash.fault? with
      | some fault =>
          rw [complete, SlowHash.hash_eq_error _ output hl fault hp]
          rfl
      | none =>
          rw [passedOver_of_finalize hl hf hp]
          exact (alike_complete I hl hp _).seen_eq

end Client

end PakeRegistration
