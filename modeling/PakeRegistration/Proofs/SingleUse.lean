import PakeRegistration.Proofs.Emission
import PakeRegistration.Proofs.Session

/-!
A client state is used once, in every run of a session. What a state may become is one relation; every step keeps to
it, so a run does, and a call on a state leaves it spent.
-/

namespace PakeRegistration.ClientState

/-- What a state may become: it stays out of use once it is, and it keeps both secrets or has none. -/
structure Becomes (t t' : ClientState) : Prop where
  consumed : t.consumed = true → t'.consumed = true
  secrets : t'.blind = t.blind ∧ t'.password = t.password ∨ t'.blind = [] ∧ t'.password = []

/-- A state that a registration cannot be finished with. -/
def Spent (t : ClientState) : Prop := t.consumed = true ∨ t.blind = [] ∧ t.password = []

def finished : ClientState := { blind := [], password := [], consumed := true }

theorem Becomes.refl (t : ClientState) : t.Becomes t := ⟨fun h => h, .inl ⟨rfl, rfl⟩⟩

theorem Becomes.trans {t t' t'' : ClientState} (h : t.Becomes t') (h' : t'.Becomes t'') : t.Becomes t'' := by
  refine ⟨fun hc => h'.consumed (h.consumed hc), ?_⟩
  rcases h'.secrets with ⟨hb, hp⟩ | he
  · rw [hb, hp]
    exact h.secrets
  · exact .inr he

theorem Becomes.spent {t t' : ClientState} (h : t.Becomes t') (hs : t.Spent) : t'.Spent := by
  rcases hs with hc | ⟨hb, hp⟩
  · exact .inl (h.consumed hc)
  · rcases h.secrets with ⟨hb', hp'⟩ | he
    · exact .inr ⟨hb'.trans hb, hp'.trans hp⟩
    · exact .inr he

theorem becomes_finished (t : ClientState) : t.Becomes finished := ⟨fun _ => rfl, .inr ⟨rfl, rfl⟩⟩

theorem becomes_wipe (t : ClientState) : t.Becomes t.wipe := ⟨fun h => h, .inr ⟨rfl, rfl⟩⟩

theorem consume_of_consumed {t : ClientState} (h : t.consumed = true) : t.consume = .error .stateConsumed := by
  rw [consume, if_pos h]

theorem consume_of_unconsumed {t : ClientState} (h : t.consumed = false) :
    t.consume = .ok (t.password, { t with consumed := true }) := by
  rw [consume, if_neg (by simp [h])]

theorem Spent.encode {t : ClientState} (h : t.Spent) :
    t.encode = .error (.protocol .stateConsumed) ∨ t.encode = encode { blind := [], password := [] } := by
  obtain ⟨blind, password, consumed⟩ := t
  cases consumed with
  | true => exact .inl rfl
  | false =>
      rcases h with h | ⟨hb, hp⟩
      · cases h
      · cases hb
        cases hp
        exact .inr rfl

end PakeRegistration.ClientState

namespace PakeRegistration.Client

open Outcome

theorem useOnce_of_consumed {α : Type} {t : ClientState} (h : t.consumed = true)
    (work : (password blind : Bytes) → Run α) : useOnce t work = (t, Run.fail (.protocol .stateConsumed)) := by
  rw [useOnce, ClientState.consume_of_consumed h]

theorem useOnce_of_unconsumed {α : Type} {t : ClientState} (h : t.consumed = false)
    (work : (password blind : Bytes) → Run α) :
    useOnce t work = (ClientState.finished, work t.password t.blind) := by
  rw [useOnce, ClientState.consume_of_unconsumed h]
  rfl

theorem useOnce_of_spent {α : Type} {t : ClientState} (h : t.Spent) (work : (password blind : Bytes) → Run α)
    (hw : ∀ password, ∃ e, (work password []).outcome = .error e) :
    ∃ e, (useOnce t work).2.outcome = .error e := by
  cases hc : t.consumed with
  | true =>
      rw [useOnce_of_consumed hc]
      exact ⟨_, rfl⟩
  | false =>
      rcases h with h | ⟨hb, _⟩
      · rw [hc] at h
        cases h
      · rw [useOnce_of_unconsumed hc, hb]
        exact hw t.password

end PakeRegistration.Client

namespace PakeRegistration.Session

open Outcome

/-- The calls on the state of a name. Finishing is one when there is an object for the response. -/
def Calls (s : Session) (name : Text) : Step → Prop
  | .consume state | .wipe state => state = name
  | .finish state response _ => state = name ∧ ∃ o, s.object? response = some o
  | _ => False

def Uses (s : Session) (name : Text) (step : Step) : Prop := s.Calls name step ∧ step ≠ .wipe name

theorem uses_consume (s : Session) (name : Text) : s.Uses name (.consume name) := ⟨rfl, by simp⟩

/-- A step that is refused for a state that is out of use, and changes no object. -/
def Refuses (s : Session) (step : Step) : Prop :=
  (s.perform step).2.outcome = .error (.protocol .stateConsumed) ∧
    ∀ name, (s.perform step).1.object? name = s.object? name

def work (suite : CipherSuite) : Object → (password blind : Bytes) → Run Client.Finished
  | .response m, password, blind => do
      let output ← Oprf.finalize suite.group password blind m.evaluatedElement
      Client.complete suite output m.serverPublicKey
  | o, _, _ => Run.ofExcept ((o.lacks "evaluated_element").mapError .object)

theorem work_nil (suite : CipherSuite) (o : Object) (password : Bytes) :
    ∃ e, (work suite o password []).outcome = .error e := by
  cases o with
  | response m =>
      rw [work, Run.outcome_bind]
      exact ⟨.protocol .zeroInversion, rfl⟩
  | request | upload | state => exact ⟨_, rfl⟩

section

variable {s : Session} {name : Text} {t : ClientState}

theorem state_of_state? (ht : s.state? name = some t) (use : String) : s.state name use = .ok t := by
  rw [state, object_of_object? ((state?_eq_some_iff s name t).mp ht)]
  rfl

theorem consume_eq (ht : s.state? name = some t) :
    s.consume name = s.commit (Run.ofExcept (t.consume.mapError .protocol)) fun (password, state) =>
      (s.bind name (.state state), .octets password) := by
  rw [consume, state_of_state? ht]
  rfl

theorem wipe_eq (ht : s.state? name = some t) :
    s.wipe name = (s.bind name (.state t.wipe), ⟨[], .ok .none⟩) := by
  rw [wipe, state_of_state? ht]
  rfl

theorem finish_eq (ht : s.state? name = some t) {response : Text} {o : Object} (ho : s.object? response = some o)
    (as : Text) :
    s.finish name response as =
      (s.bind name (.state (Client.useOnce t (work s.suite o)).1)).commit
        (do
          let finished ← (Client.useOnce t (work s.suite o)).2
          return (finished, ← finished.upload.encode))
        fun (finished, upload) =>
          ((s.bind name (.state (Client.useOnce t (work s.suite o)).1)).bind as (.upload finished.upload),
            .finished finished upload) := by
  rw [finish, object_of_object? ((state?_eq_some_iff s name t).mp ht), object_of_object? ho]
  cases o <;> rfl

theorem finish_state? (ht : s.state? name = some t) {response : Text} {o : Object}
    (ho : s.object? response = some o) {as : Text} (ha : name ≠ as) :
    (s.finish name response as).1.state? name = some (Client.useOnce t (work s.suite o)).1 := by
  rw [finish_eq ht ho]
  refine (state?_congr (commit_object? _ _ _ name fun _ => ?_)).trans (state?_bind_self s name _)
  exact object?_bind_of_ne _ _ ha

theorem finish_outcome_of_ok (ht : s.state? name = some t) {response : Text} {m : RegistrationResponse}
    (hr : s.object? response = some (.response m)) {finished : Client.Finished} {upload : Bytes}
    (hf : (Client.finish s.suite t m).2.outcome = .ok finished) (hu : finished.upload.encode = .ok upload) (as : Text) :
    (s.perform (.finish name response as)).2.outcome = .ok (.finished finished upload) := by
  have hwork : (Client.useOnce t (work s.suite (.response m))).2.outcome = .ok finished := hf
  rw [perform, finish_eq ht hr, commit_outcome, Run.outcome_bind, hwork, ok_bind, Run.outcome_bind,
    Run.outcome_lift_range, hu]
  rfl

theorem finish_outcome_of_spent (ht : s.state? name = some t) (hs : t.Spent) (response as : Text) :
    ∃ e, (s.finish name response as).2.outcome = .error e := by
  cases ho : s.object? response with
  | none =>
      rw [finish, object_of_object? ((state?_eq_some_iff s name t).mp ht), object, ho]
      exact ⟨_, rfl⟩
  | some o =>
      obtain ⟨e, he⟩ := Client.useOnce_of_spent hs _ (work_nil s.suite o)
      rw [finish_eq ht ho, commit_error _ _ _ e]
      · exact ⟨e, rfl⟩
      · rw [Run.outcome_bind, he, error_bind]

theorem refuses_of_consumed (ht : s.state? name = some t) (hc : t.consumed = true) {step : Step}
    (hu : s.Uses name step) : s.Refuses step := by
  obtain ⟨hcalls, hw⟩ := hu
  cases step with
  | consume state =>
      cases hcalls
      have he : s.perform (.consume name) = (s, ⟨[], .error (.protocol .stateConsumed)⟩) := by
        rw [perform, consume_eq ht, ClientState.consume_of_consumed hc]
        rfl
      refine ⟨?_, fun other => ?_⟩ <;> rw [he]
  | finish state response as =>
      obtain ⟨rfl, o, ho⟩ := hcalls
      have he : s.perform (.finish state response as) =
          (s.bind state (.state t), ⟨[], .error (.protocol .stateConsumed)⟩) := by
        rw [perform, finish_eq ht ho, Client.useOnce_of_consumed hc]
        rfl
      refine ⟨?_, fun other => ?_⟩
      · rw [he]
      · rw [he]
        by_cases hn : other = state
        · rw [hn, object?_bind_self, (state?_eq_some_iff s state t).mp ht]
        · exact object?_bind_of_ne s _ hn
  | wipe state =>
      cases hcalls
      exact absurd rfl hw
  | _ => cases hcalls

structure Changes (s : Session) (name : Text) (step : Step) (t t' : ClientState) : Prop where
  state : (s.perform step).1.state? name = some t'
  becomes : t.Becomes t'
  spent : s.Calls name step → t'.Spent
  consumed : s.Uses name step → t'.consumed = true

theorem changes_of_object? (ht : s.state? name = some t) {step : Step}
    (h : (s.perform step).1.object? name = s.object? name) (hc : s.Calls name step → t.consumed = true) :
    s.Changes name step t t where
  state := by rw [state?_congr h, ht]
  becomes := .refl t
  spent hcalls := .inl (hc hcalls)
  consumed hu := hc hu.1

theorem exists_changes_consume (ht : s.state? name = some t) : ∃ t', s.Changes name (.consume name) t t' := by
  cases hu : t.consumed with
  | true =>
      have hr := refuses_of_consumed ht hu (uses_consume s name)
      exact ⟨t, changes_of_object? ht (hr.2 name) fun _ => hu⟩
  | false =>
      refine ⟨{ t with consumed := true }, ?_, ⟨fun _ => rfl, .inl ⟨rfl, rfl⟩⟩, fun _ => .inl rfl, fun _ => rfl⟩
      rw [perform, consume_eq ht, ClientState.consume_of_unconsumed hu]
      exact state?_bind_self _ _ _

theorem changes_wipe (ht : s.state? name = some t) : s.Changes name (.wipe name) t t.wipe := by
  refine ⟨?_, t.becomes_wipe, fun _ => .inr ⟨rfl, rfl⟩, fun hu => absurd rfl hu.2⟩
  rw [perform, wipe_eq ht]
  exact state?_bind_self _ _ _

theorem exists_changes_finish (ht : s.state? name = some t) (response : Text) {as : Text} (ha : name ≠ as) :
    ∃ t', s.Changes name (.finish name response as) t t' := by
  cases ho : s.object? response with
  | none =>
      refine ⟨t, changes_of_object? ht ?_ ?_⟩
      · rw [perform, finish, object_of_object? ((state?_eq_some_iff s name t).mp ht), object, ho]
      · intro hcalls
        obtain ⟨_, o, ho'⟩ := hcalls
        rw [ho] at ho'
        cases ho'
  | some o =>
      have hstate := finish_state? ht ho ha
      cases hu : t.consumed with
      | true =>
          rw [Client.useOnce_of_consumed hu] at hstate
          exact ⟨t, hstate, .refl t, fun _ => .inl hu, fun _ => hu⟩
      | false =>
          rw [Client.useOnce_of_unconsumed hu] at hstate
          exact ⟨.finished, hstate, t.becomes_finished, fun _ => .inl rfl, fun _ => rfl⟩

theorem exists_changes (ht : s.state? name = some t) {step : Step} (hb : name ∉ step.binds) :
    ∃ t', s.Changes name step t t' := by
  by_cases hc : step.changes? = some name
  · cases step with
    | consume state =>
        cases hc
        exact exists_changes_consume ht
    | wipe state =>
        cases hc
        exact ⟨_, changes_wipe ht⟩
    | finish state response as =>
        cases hc
        rw [Step.binds, List.mem_singleton] at hb
        exact exists_changes_finish ht response hb
    | _ => cases hc
  -- every other step leaves the object of the name, and is no call on it
  · refine ⟨t, changes_of_object? ht (perform_object? s step name hb hc) fun h => absurd ?_ hc⟩
    cases step with
    | consume state | wipe state => exact congrArg some h
    | finish state response as => exact congrArg some h.1
    | _ => cases h

theorem after_becomes (ht : s.state? name = some t) {steps : List Step} (hb : ∀ step ∈ steps, name ∉ step.binds) :
    ∃ t', (s.after steps).state? name = some t' ∧ t.Becomes t' := by
  induction steps generalizing s t with
  | nil => exact ⟨t, ht, .refl t⟩
  | cons step steps ih =>
      obtain ⟨t₁, h₁⟩ := exists_changes ht (hb step List.mem_cons_self)
      obtain ⟨t₂, ht₂, h₂⟩ := ih h₁.state fun step hm => hb step (List.mem_cons_of_mem _ hm)
      exact ⟨t₂, ht₂, h₁.becomes.trans h₂⟩

/-- A state whose secrets no step can get at: no registration is finished with it, and its octets and its password
are refused or empty. -/
structure Silent (s : Session) (name : Text) : Prop where
  finish (response as : Text) : ∃ e, (s.perform (.finish name response as)).2.outcome = .error e
  save : (s.perform (.save name)).2.outcome = .error (.protocol .stateConsumed) ∨
    (s.perform (.save name)).2.outcome = .ok (.octets [1, 0, 0, 0, 0])
  saveText : (s.perform (.saveText name)).2.outcome = .error (.protocol .stateConsumed) ∨
    (s.perform (.saveText name)).2.outcome = .ok (.text (Base64Url.encode [1, 0, 0, 0, 0]))
  consume : (s.perform (.consume name)).2.outcome = .error (.protocol .stateConsumed) ∨
    (s.perform (.consume name)).2.outcome = .ok (.octets [])

theorem perform_save (s : Session) (name : Text) : (s.perform (.save name)).1 = s := by
  rw [perform, observe]
  cases s.blob (.ofObject name) <;> rfl

theorem save_outcome (ht : s.state? name = some t) :
    (s.perform (.save name)).2.outcome = t.encode >>= fun octets => .ok (.octets octets) := by
  rw [perform, observe, commit_outcome, Run.outcome_ofExcept, blob_ofObject ht]

theorem saveText_outcome (ht : s.state? name = some t) :
    (s.perform (.saveText name)).2.outcome = t.encode >>= fun octets => .ok (.text (Base64Url.encode octets)) := by
  have hx : (Object.state t).toText = t.encode >>= fun octets => .ok (Base64Url.encode octets) := rfl
  rw [perform, observe, commit_outcome, Run.outcome_ofExcept, object_of_object? ((state?_eq_some_iff s name t).mp ht)]
  simp only [lift_object, mapError_ok, ok_bind, hx, bind_assoc]

theorem silent_of_spent (ht : s.state? name = some t) (hs : t.Spent) : s.Silent name := by
  have hblank : ClientState.encode { blind := [], password := [] } = .ok [1, 0, 0, 0, 0] := rfl
  refine ⟨fun response as => finish_outcome_of_spent ht hs response as, ?_, ?_, ?_⟩
  · rw [save_outcome ht]
    rcases hs.encode with he | he
    · exact .inl (by rw [he, error_bind])
    · exact .inr (by rw [he, hblank, ok_bind])
  · rw [saveText_outcome ht]
    rcases hs.encode with he | he
    · exact .inl (by rw [he, error_bind])
    · exact .inr (by rw [he, hblank, ok_bind])
  · cases hc : t.consumed with
    | true => exact .inl (refuses_of_consumed ht hc (uses_consume s name)).1
    | false =>
        rcases hs with hc' | ⟨_, hp⟩
        · rw [hc] at hc'
          cases hc'
        · rw [perform, consume_eq ht, ClientState.consume_of_unconsumed hc, hp]
          exact .inr rfl

theorem silent_after_call (ht : s.state? name = some t) {call : Step} {steps : List Step}
    (hb : ∀ step ∈ call :: steps, name ∉ step.binds) (hc : s.Calls name call) :
    (s.after (call :: steps)).Silent name := by
  obtain ⟨t₁, h₁⟩ := exists_changes ht (hb call List.mem_cons_self)
  obtain ⟨t₂, ht₂, h₂⟩ := after_becomes h₁.state fun step hm => hb step (List.mem_cons_of_mem _ hm)
  exact silent_of_spent ht₂ (h₂.spent (h₁.spent hc))

theorem refuses_after_use (ht : s.state? name = some t) {use last : Step} {steps : List Step}
    (hb : ∀ step ∈ use :: steps, name ∉ step.binds) (hu : s.Uses name use)
    (hl : (s.after (use :: steps)).Uses name last) : (s.after (use :: steps)).Refuses last := by
  obtain ⟨t₁, h₁⟩ := exists_changes ht (hb use List.mem_cons_self)
  obtain ⟨t₂, ht₂, h₂⟩ := after_becomes h₁.state fun step hm => hb step (List.mem_cons_of_mem _ hm)
  exact refuses_of_consumed ht₂ (h₂.consumed (h₁.consumed hu)) hl

end

/-- From any point of a run on, with all that happens to other objects in between: a state stays out of use once it
is and keeps both secrets or has none, it has one use at most, finishing takes its use and its secrets whatever comes
of it, and after any call on it no later step finishes with it or shows a secret. -/
theorem single_use (s : Session) (name : Text) (t : ClientState) (ht : s.state? name = some t)
    (before : List Step) (hb : ∀ step ∈ before, name ∉ step.binds) :
    ∃ t', (s.after before).state? name = some t' ∧ t.Becomes t' ∧
      (t'.consumed = true → ∀ use, (s.after before).Uses name use → (s.after before).Refuses use) ∧
      (t'.consumed = false → ∀ response as, (s.after before).Uses name (.finish name response as) → name ≠ as →
        ((s.after before).perform (.finish name response as)).1.state? name = some .finished) ∧
      ∀ call between, (∀ step ∈ call :: between, name ∉ step.binds) →
        ((s.after before).Uses name call → ∀ last, (s.after (before ++ call :: between)).Uses name last →
          (s.after (before ++ call :: between)).Refuses last) ∧
        ((s.after before).Calls name call → (s.after (before ++ call :: between)).Silent name) := by
  obtain ⟨t', ht', hbecomes⟩ := after_becomes ht hb
  refine ⟨t', ht', hbecomes, ?_, ?_, ?_⟩
  · intro hc use hu
    exact refuses_of_consumed ht' hc hu
  · rintro hc response as ⟨⟨_, o, ho⟩, _⟩ ha
    rw [perform, finish_state? ht' ho ha, Client.useOnce_of_unconsumed hc]
  · intro call between hb'
    rw [after_append]
    refine ⟨?_, ?_⟩
    · intro hu last hl
      exact refuses_after_use ht' hb' hu hl
    · intro hc
      exact silent_after_call ht' hb' hc

def oneState : Session :=
  ⟨Residues.sampleSuite, [("state", .state Residues.sampleStarted.state),
    ("response", .response ⟨Residues.sampleEvaluated, Ristretto255.generatorOctets⟩)]⟩

/-- The state is saved, and the registration finished with it in a result; then it is of no more use. -/
theorem single_use_oneState :
    oneState.state? "state" = some Residues.sampleStarted.state ∧
      (∀ step ∈ [Step.save "state"], ("state" : Text) ∉ step.binds) ∧
      (oneState.after [.save "state"]).state? "state" = some Residues.sampleStarted.state ∧
      (∃ result upload, ((oneState.after [.save "state"]).perform (.finish "state" "response" "upload")).2.outcome =
        .ok (.finished result upload)) ∧
      (oneState.after [.save "state", .finish "state" "response" "upload"]).state? "state" = some .finished ∧
      (oneState.after [.save "state", .finish "state" "response" "upload"]).Refuses
        (.finish "state" "response" "again") ∧
      (oneState.after [.save "state", .finish "state" "response" "upload"]).Silent "state" := by
  have ht : oneState.state? "state" = some Residues.sampleStarted.state := rfl
  have hb : ∀ step ∈ [Step.save "state"], ("state" : Text) ∉ step.binds := by decide
  have hsaved : oneState.after [.save "state"] = oneState := perform_save oneState "state"
  have hended : oneState.after [.save "state", .finish "state" "response" "upload"] =
      (oneState.perform (.finish "state" "response" "upload")).1 := by
    have happend := after_append oneState [.save "state"] [.finish "state" "response" "upload"]
    rwa [hsaved, after_singleton] at happend
  obtain ⟨t', ht', _, _, hfinish, hcalls⟩ := single_use oneState "state" _ ht [.save "state"] hb
  rw [hsaved] at ht' hfinish hcalls
  obtain rfl : Residues.sampleStarted.state = t' := Option.some.inj (ht.symm.trans ht')
  have hr : oneState.object? "response" =
      some (.response ⟨Residues.sampleEvaluated, Ristretto255.generatorOctets⟩) := rfl
  have hu : oneState.Uses "state" (.finish "state" "response" "upload") := ⟨⟨rfl, _, hr⟩, by simp⟩
  have hr' : (oneState.after [.save "state", .finish "state" "response" "upload"]).object? "response" =
      some (.response ⟨Residues.sampleEvaluated, Ristretto255.generatorOctets⟩) :=
    (after_object? oneState _ "response" (by decide)).trans hr
  have hu' : (oneState.after [.save "state", .finish "state" "response" "upload"]).Uses "state"
      (.finish "state" "response" "again") :=
    ⟨⟨rfl, _, hr'⟩, by simp⟩
  obtain ⟨hlast, hsilent⟩ := hcalls (.finish "state" "response" "upload") [] (by decide)
  obtain ⟨E, _, ⟨I⟩⟩ : Residues.sampleSuite.group.Lawful := Residues.sample_lawful
  obtain ⟨result, hresult⟩ := Client.exists_finished I (by decide) KeyPair.finalize_sample
    KeyPair.derivable_sampleOutput Ristretto255.generatorOctets
  obtain ⟨upload, hupload, _⟩ := Client.decode_upload I hresult
  refine ⟨ht, hb, ?_, ?_, ?_, hlast hu _ hu', hsilent hu.1⟩
  · rw [hsaved, ht]
  · rw [hsaved]
    exact ⟨result, upload, finish_outcome_of_ok ht hr hresult hupload "upload"⟩
  · rw [hended]
    exact hfinish rfl "response" "upload" hu (by decide)

end PakeRegistration.Session
