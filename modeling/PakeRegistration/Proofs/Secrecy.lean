import PakeRegistration.Proofs.Host
import PakeRegistration.Proofs.Observation

/-!
Registrations with different secrets side by side. Main statement: each half of a registration is seen as its image, and
two that are alike in public cannot be told apart unless their images can; whether they can is decided by one bit for
the first half and by one number for the second.
-/

namespace PakeRegistration

namespace Oprf

variable {kinds : Nat → Draw.Kind} {attempt : Nat}

theorem attemptsSeen_of_unusable {identity : Bool}
    (h : kinds attempt = .zero ∨ kinds attempt = .nonzero ∧ identity = true) (remaining : Nat) :
    attemptsSeen kinds identity attempt (remaining + 1) =
      ⟨.drew 64 :: .noted (.unusableBlind attempt) :: (attemptsSeen kinds identity (attempt + 1) remaining).events,
        (attemptsSeen kinds identity (attempt + 1) remaining).outcome⟩ := by
  rcases h with h | ⟨h, rfl⟩
  · rw [attemptsSeen, h]
    rfl
  · rw [attemptsSeen, h]
    rfl

theorem attemptsSeen_identity (remaining : Nat) : (attemptsSeen kinds true attempt remaining).outcome ≠ .ok true := by
  induction remaining generalizing attempt with
  | zero =>
      intro h
      cases h
  | succ remaining ih =>
      cases hk : kinds attempt with
      | raised text | malformed =>
          rw [attemptsSeen, hk]
          intro h
          cases h
      | zero =>
          rw [attemptsSeen_of_unusable (Or.inl hk)]
          exact ih
      | nonzero =>
          rw [attemptsSeen_of_unusable (Or.inr ⟨hk, rfl⟩)]
          exact ih

/-- Where no draw could be used anyway, the identity makes no difference. -/
theorem attemptsSeen_eq_of_not_found (remaining : Nat)
    (h : (attemptsSeen kinds false attempt remaining).outcome ≠ .ok true) :
    attemptsSeen kinds true attempt remaining = attemptsSeen kinds false attempt remaining := by
  induction remaining generalizing attempt with
  | zero => rfl
  | succ remaining ih =>
      cases hk : kinds attempt with
      | raised text | malformed =>
          rw [attemptsSeen, attemptsSeen, hk]
          rfl
      | zero =>
          rw [attemptsSeen_of_unusable (Or.inl hk)] at h
          rw [attemptsSeen_of_unusable (Or.inl hk), attemptsSeen_of_unusable (Or.inl hk), ih h]
      | nonzero =>
          rw [attemptsSeen, hk] at h
          exact absurd rfl h

end Oprf

namespace Client

/-- The password is hashed to the identity, and refused where every other one of its length is taken. -/
def SingledOut (suite : CipherSuite) (source : RandomSource) (password : Bytes) : Prop :=
  Oprf.Unblindable suite.group password ∧ (startSeen source.kinds password.length false).outcome = .ok ()

section

variable (kinds : Nat → Draw.Kind) (length : Nat)

theorem startSeen_identity : (startSeen kinds length true).outcome ≠ .ok () := by
  unfold startSeen
  split
  · exact nofun
  · simp only [Oprf.blindSeen, Run.outcome_bind, ne_eq, Outcome.bind_eq_ok_iff]
    rintro ⟨_, ⟨found, hfound, hblind⟩, _⟩
    cases found with
    | true => exact Oprf.attemptsSeen_identity _ hfound
    | false => cases hblind

variable {kinds length}

theorem startSeen_eq_ok_iff (h : (startSeen kinds length false).outcome = .ok ()) (identity : Bool) :
    (startSeen kinds length identity).outcome = .ok () ↔ identity = false := by
  cases identity with
  | false => exact iff_of_true h rfl
  | true => exact iff_of_false (startSeen_identity kinds length) nofun

theorem startSeen_eq_of_error (h : (startSeen kinds length false).outcome ≠ .ok ()) (identity : Bool) :
    startSeen kinds length identity = startSeen kinds length false := by
  cases identity with
  | false => rfl
  | true =>
      unfold startSeen at h ⊢
      split
      · rfl
      next hl =>
        rw [if_neg hl] at h
        rw [Oprf.blindSeen, Oprf.blindSeen, Oprf.attemptsSeen_eq_of_not_found]
        intro hfound
        apply h
        rw [Oprf.blindSeen, Run.outcome_bind, Run.outcome_bind, hfound]
        rfl

end

variable {suite : CipherSuite} {E : Type} [AddCommGroup E] (I : suite.group.Interpretation E)

include I

theorem indistinct_start_iff {source source' : RandomSource} (hsource : ∀ call, source.kinds call = source'.kinds call)
    {password password' : Bytes} (hl : password.length = password'.length) :
    Run.Indistinct (start suite source password) (start suite source' password') ↔
      (SingledOut suite source password ↔ SingledOut suite source' password') := by
  have hkinds : source.kinds = source'.kinds := funext hsource
  have hx := start_seen I source password
  have hy := start_seen I source' password'
  rw [← hl, ← hkinds] at hy
  simp only [SingledOut, ← hl, ← hkinds]
  by_cases hok : (startSeen source.kinds password.length false).outcome = .ok ()
  · simp only [hok, and_true]
    constructor
    · intro h
      have hiff := h.seen.ok_iff
      rw [hx, hy, startSeen_eq_ok_iff hok, startSeen_eq_ok_iff hok, decide_eq_false_iff_not,
        decide_eq_false_iff_not] at hiff
      exact not_iff_not.mp hiff
    · intro h
      exact Run.indistinct_of_seen (by rw [hx, hy, decide_eq_decide.mpr h])
  · rw [startSeen_eq_of_error hok] at hx hy
    simp only [hok, and_false]
    exact iff_of_true (Run.indistinct_of_seen (by rw [hx, hy])) trivial

end Client

namespace KeyPair

theorem notes_passed_append {α : Type} (counter count : Nat) (rest : List Event) (outcome : Except Error α) :
    (⟨passed counter count ++ rest, outcome⟩ : Run α).notes =
      (List.range' counter count).map .zeroDerivation ++ (⟨rest, outcome⟩ : Run α).notes := by
  induction count generalizing counter with
  | zero => rfl
  | succ count ih =>
      rw [passed_succ, List.range'_succ]
      exact congrArg (Note.zeroDerivation counter :: ·) (ih (counter + 1))

/-- A search and a note behind it show how many counters are passed over: by the lines of the log, and when these are as
many as there are counters, by the end of the run. -/
theorem eq_of_indistinct_search {m n : Nat} (hm : m ≤ counters) (hn : n ≤ counters) (note : Note)
    (h : Run.Indistinct (searchSeen 0 m counters >>= fun _ => Run.note note)
      (searchSeen 0 n counters >>= fun _ => Run.note note)) : m = n := by
  have hrun (k : Nat) : (searchSeen 0 k counters >>= fun _ => Run.note note) =
      if k < counters then ⟨passed 0 k ++ [.noted note], .ok ()⟩
      else ⟨passed 0 k, .error (.protocol .keyPairExhausted)⟩ := by
    unfold searchSeen
    split <;> rfl
  have hok := h.ok_iff
  have hlog := congrArg List.length h.log
  simp only [hrun] at hok hlog
  by_cases hm' : m < counters
  · have hn' : n < counters := by
      by_contra hn'
      simp [hm', hn'] at hok
    simp only [hm', hn', if_true, notes_passed_append, List.length_map, List.length_append, List.length_range'] at hlog
    exact Nat.add_right_cancel hlog
  · have hn' : ¬n < counters := by
      intro hn'
      simp [hm', hn'] at hok
    omega

end KeyPair

namespace Client

theorem indistinct_finishSeen_iff (costs : Argon2.Parameters) (consumed : Bool) {m n : Nat} (hm : m ≤ KeyPair.counters)
    (hn : n ≤ KeyPair.counters) :
    Run.Indistinct (finishSeen costs consumed m) (finishSeen costs consumed n) ↔
      (consumed = false → costs.fault? = none → m = n) := by
  constructor
  · rintro h rfl hp
    rw [finishSeen, finishSeen, hp] at h
    exact KeyPair.eq_of_indistinct_search hm hn _ h
  · intro h
    have hseen : finishSeen costs consumed m = finishSeen costs consumed n := by
      cases consumed with
      | true => rfl
      | false =>
          cases hp : costs.fault? with
          | some fault => rw [finishSeen, finishSeen, hp]
          | none => rw [h rfl hp]
    exact Run.indistinct_of_seen (congrArg Run.seen hseen)

theorem passedOver_eq_zero {suite : CipherSuite} {E : Type} [AddCommGroup E] (I : suite.group.Interpretation E)
    {state : ClientState} {response : RegistrationResponse} (hs : state.Usable)
    (hr : suite.group.Accepts response.evaluatedElement)
    (h : ¬(state.consumed = false ∧ suite.slowHash.fault? = none)) :
    passedOver suite state response = 0 := by
  rcases state with ⟨blind, password, consumed⟩
  cases consumed with
  | true => rfl
  | false =>
      obtain ⟨hblind, hpassword⟩ := hs rfl
      obtain ⟨output, hl, hf⟩ := Oprf.exists_finalize I hpassword hblind hr
      cases hp : suite.slowHash.fault? with
      | none => exact absurd ⟨rfl, hp⟩ h
      | some fault => exact passedOver_of_fault hl hf hp

theorem indistinct_finish_iff {suite : CipherSuite} {E : Type} [AddCommGroup E] (I : suite.group.Interpretation E)
    {state state' : ClientState} {response response' : RegistrationResponse} (hc : state.consumed = state'.consumed)
    (hs : state.Usable) (hs' : state'.Usable) (hr : suite.group.Accepts response.evaluatedElement)
    (hr' : suite.group.Accepts response'.evaluatedElement) :
    Run.Indistinct (finish suite state response).2 (finish suite state' response').2 ↔
      passedOver suite state response = passedOver suite state' response' := by
  have hx := finish_seen I hs hr
  have hy := finish_seen I hs' hr'
  rw [← hc] at hy
  constructor
  · intro h
    have hseen := h.seen
    rw [hx, hy, indistinct_finishSeen_iff _ _ (passedOver_le ..) (passedOver_le ..)] at hseen
    by_cases hcome : state.consumed = false ∧ suite.slowHash.fault? = none
    · exact hseen hcome.1 hcome.2
    · rw [passedOver_eq_zero I hs hr hcome, passedOver_eq_zero I hs' hr' (hc ▸ hcome)]
  · intro h
    exact Run.indistinct_of_seen (by rw [hx, hy, h])

theorem finishSeen_outcome (costs : Argon2.Parameters) (consumed : Bool) {m : Nat} (hm : m < KeyPair.counters) :
    (finishSeen costs consumed m).outcome =
      if consumed then .error (.protocol .stateConsumed)
      else
        match costs.fault? with
        | some fault => .error (.slowHash (.parameters fault))
        | none => .ok () := by
  cases consumed with
  | true => rfl
  | false =>
      rw [finishSeen, if_neg Bool.false_ne_true, if_neg Bool.false_ne_true]
      cases costs.fault? with
      | some fault => rfl
      | none => rw [Run.outcome_bind, KeyPair.searchSeen, if_pos hm, Outcome.ok_bind, Run.outcome_note]

/-- If finishing comes to the seed of a key pair, some counter gives a scalar that is not zero. -/
def Derives (suite : CipherSuite) (state : ClientState) (response : RegistrationResponse) : Prop :=
  ∀ seed, Client.seed suite state response = .ok seed → KeyPair.Derivable seed KeyPair.defaultInfo

theorem Derives.passedOver_lt {suite : CipherSuite} {E : Type} [AddCommGroup E] (I : suite.group.Interpretation E)
    {state : ClientState} {response : RegistrationResponse} (h : Derives suite state response) :
    passedOver suite state response < KeyPair.counters := by
  unfold passedOver
  split
  next seed hseed => exact KeyPair.passedOver_lt I (h seed hseed)
  · exact Nat.zero_lt_succ _

theorem alike_finish_outcome {suite : CipherSuite} {E : Type} [AddCommGroup E] (I : suite.group.Interpretation E)
    {state state' : ClientState} {response response' : RegistrationResponse} (hc : state.consumed = state'.consumed)
    (hs : state.Usable) (hs' : state'.Usable) (hr : suite.group.Accepts response.evaluatedElement)
    (hr' : suite.group.Accepts response'.evaluatedElement) (hd : Derives suite state response)
    (hd' : Derives suite state' response') :
    Outcome.Alike (fun _ _ => True) (finish suite state response).2.outcome
      (finish suite state' response').2.outcome := by
  apply Run.alike_outcome_of_seen
  rw [finish_seen I hs hr, finish_seen I hs' hr', finishSeen_outcome _ _ (hd.passedOver_lt I),
    finishSeen_outcome _ _ (hd'.passedOver_lt I), hc]

end Client

inductive Scalar.Kind
  | zero
  | unreduced
  | canonical
deriving DecidableEq

def Scalar.kind (scalar : Bytes) : Scalar.Kind :=
  if Bytes.toNatLE scalar = 0 then .zero
  else if order ≤ Bytes.toNatLE scalar then .unreduced
  else .canonical

theorem Scalar.kind_eq_zero_iff (scalar : Bytes) : kind scalar = .zero ↔ Bytes.toNatLE scalar = 0 := by
  unfold kind
  split_ifs with hz <;> simp [hz]

theorem Scalar.kind_eq_unreduced_iff (scalar : Bytes) : kind scalar = .unreduced ↔ order ≤ Bytes.toNatLE scalar := by
  have hpos := order_pos
  unfold kind
  split_ifs with hz ho
  · simp [hz]
    omega
  · simp [ho]
  · simp [ho]

namespace ClientState

/-- Octets that are the same but for those of the password, and for a blind of the same kind. -/
structure SameShape (data data' : Bytes) : Prop where
  length : data.length = data'.length
  version : data.field 0 1 = data'.field 0 1
  blind : Scalar.kind (data.field 1 32) = Scalar.kind (data'.field 1 32)
  passwordLength : data.field 33 4 = data'.field 33 4

theorem alike_decode {data data' : Bytes} (h : SameShape data data') :
    Outcome.Alike (fun t t' => t.summary = t'.summary) (decode data) (decode data') := by
  have hversion : data.number 0 1 = data'.number 0 1 := congrArg Bytes.toNatBE h.version
  have hlength : data.number 33 4 = data'.number 33 4 := congrArg Bytes.toNatBE h.passwordLength
  have hzero := Scalar.kind_eq_zero_iff (data.field 1 32)
  have hunreduced := Scalar.kind_eq_unreduced_iff (data.field 1 32)
  rw [h.blind, Scalar.kind_eq_zero_iff] at hzero
  rw [h.blind, Scalar.kind_eq_unreduced_iff] at hunreduced
  rw [decode_eq_classify, decode_eq_classify, classify, classify]
  simp only [h.length, hversion, hlength]
  refine .guard Iff.rfl _ fun _ => .guard Iff.rfl _ fun _ => .guard Iff.rfl _ fun _ => .guard Iff.rfl _ fun _ =>
    .guard Iff.rfl _ fun _ => .guard Iff.rfl _ fun _ => .guard Iff.rfl _ fun _ => ?_
  exact .guard hzero.symm _ fun _ => .guard hunreduced.symm _ fun _ => .ok rfl

end ClientState

/-- What is seen of the first halves of registrations. -/
structure Client.StartsAlike (suite : CipherSuite) : Prop where
  seen (source : RandomSource) (password : Bytes) :
    (start suite source password).seen =
      startSeen source.kinds password.length (decide (Oprf.Unblindable suite.group password))
  indistinct_iff (source source' : RandomSource) (password password' : Bytes)
    (hl : password.length = password'.length) (hsource : ∀ call, source.kinds call = source'.kinds call) :
    Run.Indistinct (start suite source password) (start suite source' password') ↔
      (SingledOut suite source password ↔ SingledOut suite source' password')

/-- What is seen of the second halves of registrations. -/
structure Client.FinishesAlike (suite : CipherSuite) : Prop where
  seen (state : ClientState) (data : Bytes) (response : RegistrationResponse) (hs : state.Usable)
    (hr : RegistrationResponse.decode suite.group data = .ok response) :
    (finish suite state response).2.seen =
      finishSeen suite.slowHash state.consumed (passedOver suite state response)
  indistinct_iff (state state' : ClientState) (data data' : Bytes) (response response' : RegistrationResponse)
    (hc : state.consumed = state'.consumed) (hs : state.Usable) (hs' : state'.Usable)
    (hr : RegistrationResponse.decode suite.group data = .ok response)
    (hr' : RegistrationResponse.decode suite.group data' = .ok response') :
    Run.Indistinct (finish suite state response).2 (finish suite state' response').2 ↔
      passedOver suite state response = passedOver suite state' response'
  outcome (state state' : ClientState) (data data' : Bytes) (response response' : RegistrationResponse)
    (hc : state.consumed = state'.consumed) (hs : state.Usable) (hs' : state'.Usable)
    (hr : RegistrationResponse.decode suite.group data = .ok response)
    (hr' : RegistrationResponse.decode suite.group data' = .ok response') (hd : Derives suite state response)
    (hd' : Derives suite state' response') :
    Outcome.Alike (fun _ _ => True) (finish suite state response).2.outcome
      (finish suite state' response').2.outcome

namespace Residues

/-- A source whose first draw stands for zero, although its octets are not all zero. -/
def orderSource : RandomSource := fun call _ =>
  .octets (Bytes.ofNatLE 64 (if call = 1 then Scalar.order else 5))

theorem kinds_orderSource (call : Nat) : sampleSource.kinds call = orderSource.kinds call := by
  rw [RandomSource.kinds, RandomSource.kinds, sampleSource, orderSource]
  by_cases hcall : call = 1
  · rw [if_pos hcall, if_pos hcall]
    decide +kernel
  · rw [if_neg hcall, if_neg hcall]
    decide +kernel

/-- The sample suite, but with a map to the group that sends half of the uniform octets to the identity. -/
def halvedSuite : CipherSuite :=
  ⟨group sampleTable 7 fun octets => (octets.headD 0).toNat % 2, sampleSuite.slowHash⟩

theorem halvedSuite_lawful : halvedSuite.group.Lawful :=
  group_lawful (by decide +kernel) 7 (by decide +kernel) _

def stateOf (blind : Nat) (password : String) : ClientState :=
  { blind := Scalar.ofNat blind, password := Bytes.ascii password }

theorem passedOver_pw :
    Client.passedOver sampleSuite (stateOf 2 "pw") ⟨sampleEvaluated, Ristretto255.generatorOctets⟩ = 0 := by
  refine Eq.trans (Client.passedOver_of_finalize (Oprf.finalize_length KeyPair.finalize_sample)
    KeyPair.finalize_sample (by decide)) ?_
  rw [KeyPair.seed_sampleOutput, KeyPair.first_sampleSeed.passedOver_eq]

theorem passedOver_longer :
    Client.passedOver sampleSuite (stateOf 1 "longer") ⟨sampleElement, sampleBlinded⟩ = 0 := by
  decide +kernel

end Residues

open Residues

end PakeRegistration
