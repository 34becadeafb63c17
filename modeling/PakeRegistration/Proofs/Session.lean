import PakeRegistration.Proofs.Outcome
import PakeRegistration.Session

namespace PakeRegistration.Session

def Step.binds : Step → List Text
  | .start name _ _ | .hostStart name _ _ => [name, requestName name]
  | .new name _ _ | .load name _ _ | .copy _ name | .respond name _ _ | .finish _ _ name => [name]
  | _ => []

def Step.changes? : Step → Option Text
  | .consume state | .wipe state | .finish state _ _ => some state
  | _ => none

def after (s : Session) (steps : List Step) : Session :=
  steps.foldl (fun s step => (s.perform step).1) s

theorem after_append (s : Session) (steps steps' : List Step) :
    s.after (steps ++ steps') = (s.after steps).after steps' :=
  List.foldl_append

theorem after_singleton (s : Session) (step : Step) : s.after [step] = (s.perform step).1 := rfl

theorem lookup_filter_of_ne (objects : List (Text × Object)) {name other : Text} (h : name ≠ other) :
    (objects.filter fun entry => entry.1 ≠ other).lookup name = objects.lookup name := by
  induction objects with
  | nil => rfl
  | cons entry objects ih =>
      obtain ⟨key, o⟩ := entry
      by_cases hk : key = other
      · have hn : (name == key) = false := by simpa [hk] using h
        rw [List.filter_cons_of_neg (by simpa using hk), ih, List.lookup_cons, hn]
      · rw [List.filter_cons_of_pos (by simpa using hk), List.lookup_cons, List.lookup_cons, ih]

@[simp] theorem object?_bind_self (s : Session) (name : Text) (o : Object) : (s.bind name o).object? name = some o := by
  rw [object?, bind, List.lookup_cons, beq_self_eq_true]

theorem object?_bind_of_ne (s : Session) {name other : Text} (o : Object) (h : name ≠ other) :
    (s.bind other o).object? name = s.object? name := by
  have hb : (name == other) = false := by simpa using h
  rw [object?, bind, List.lookup_cons, hb]
  exact lookup_filter_of_ne s.objects h

@[simp] theorem state?_bind_self (s : Session) (name : Text) (t : ClientState) :
    (s.bind name (.state t)).state? name = some t := by
  rw [state?, object?_bind_self]

theorem state?_congr {s s' : Session} {name : Text} (h : s'.object? name = s.object? name) :
    s'.state? name = s.state? name := by
  rw [state?, h, state?]

theorem state?_eq_some_iff (s : Session) (name : Text) (t : ClientState) :
    s.state? name = some t ↔ s.object? name = some (.state t) := by
  unfold state?
  constructor
  · intro h
    split at h
    next t' ho =>
      cases h
      exact ho
    · cases h
  · intro h
    rw [h]

theorem object_of_object? {s : Session} {name : Text} {o : Object} (h : s.object? name = some o) :
    s.object name = .ok o := by
  rw [object, h]

theorem blob_ofObject {s : Session} {name : Text} {t : ClientState} (ht : s.state? name = some t) :
    s.blob (.ofObject name) = t.encode := by
  rw [blob, object_of_object? ((state?_eq_some_iff s name t).mp ht)]
  rfl

theorem commit_ok {α : Type} (s : Session) (x : Run α) (f : α → Session × Answer) (a : α) (h : x.outcome = .ok a) :
    s.commit x f = ((f a).1, ⟨x.events, .ok (f a).2⟩) := by
  rw [commit, h]

theorem commit_error {α : Type} (s : Session) (x : Run α) (f : α → Session × Answer) (e : Error)
    (h : x.outcome = .error e) : s.commit x f = (s, ⟨x.events, .error e⟩) := by
  rw [commit, h]

theorem commit_outcome {α : Type} (s : Session) (x : Run α) (f : α → Session × Answer) :
    (s.commit x f).2.outcome = x.outcome >>= fun a => .ok (f a).2 := by
  cases h : x.outcome with
  | ok a => rw [commit_ok s x f a h, Outcome.ok_bind]
  | error e => rw [commit_error s x f e h, Outcome.error_bind]

theorem commit_object? {α : Type} (s : Session) (x : Run α) (f : α → Session × Answer) (name : Text)
    (hf : ∀ a, (f a).1.object? name = s.object? name) : (s.commit x f).1.object? name = s.object? name := by
  cases h : x.outcome with
  | ok a => rw [commit_ok s x f a h, hf]
  | error e => rw [commit_error s x f e h]

theorem finish_object? (s : Session) (stateName responseName as name : Text) (hs : name ≠ stateName)
    (ha : name ≠ as) : (s.finish stateName responseName as).1.object? name = s.object? name := by
  unfold finish
  split
  next t response ht hr =>
    rw [commit_object?, object?_bind_of_ne _ _ hs]
    intro a
    exact object?_bind_of_ne _ _ ha
  all_goals rfl

theorem perform_object? (s : Session) (step : Step) (name : Text) (hb : name ∉ step.binds)
    (hc : step.changes? ≠ some name) : (s.perform step).1.object? name = s.object? name := by
  cases step with
  | suite | save | saveText | summary | equal | hostFinish => exact commit_object? s _ _ name fun _ => rfl
  | start as | hostStart as =>
      simp only [Step.binds, List.mem_cons, List.not_mem_nil, or_false, not_or] at hb
      refine commit_object? s _ _ name fun _ => ?_
      rw [bindStarted, object?_bind_of_ne _ _ hb.2, object?_bind_of_ne _ _ hb.1]
  | new as | load as | copy _ as | respond as =>
      rw [Step.binds, List.mem_singleton] at hb
      exact commit_object? s _ _ name fun _ => object?_bind_of_ne _ _ hb
  | consume state | wipe state =>
      have hs : name ≠ state := fun h => hc (congrArg some h.symm)
      exact commit_object? s _ _ name fun _ => object?_bind_of_ne _ _ hs
  | finish state response as =>
      rw [Step.binds, List.mem_singleton] at hb
      exact finish_object? s state response as name (fun h => hc (congrArg some h.symm)) hb

theorem after_object? (s : Session) (steps : List Step) (name : Text)
    (h : ∀ step ∈ steps, name ∉ step.binds ∧ step.changes? ≠ some name) :
    (s.after steps).object? name = s.object? name := by
  induction steps generalizing s with
  | nil => rfl
  | cons step steps ih =>
      rw [List.forall_mem_cons] at h
      exact (ih _ h.2).trans (perform_object? s step name h.1.1 h.1.2)

end PakeRegistration.Session
