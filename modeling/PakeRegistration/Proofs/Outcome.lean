import Mathlib.Data.List.Forall2
import PakeRegistration.Run

/-!
Outcomes without events. The outcome of a run is a result like that of a computation without events, so a run is
opened by opening results: one lemma for every way in which a result enters another one. Where the events matter, one
run after another is opened as a whole.
-/

namespace PakeRegistration.Outcome

variable {ε δ α β : Type}

@[simp] theorem ok_bind (a : α) (f : α → Except ε β) : (Except.ok a >>= f) = f a := rfl

@[simp] theorem error_bind (e : ε) (f : α → Except ε β) : (Except.error e >>= f) = .error e := rfl

@[simp] theorem pure_eq (a : α) : (pure a : Except ε α) = .ok a := rfl

@[simp] theorem throw_eq (e : ε) : (throw e : Except ε α) = .error e := rfl

@[simp] theorem mapError_ok (a : α) (f : ε → δ) : (Except.ok a).mapError f = .ok a := rfl

@[simp] theorem mapError_error (e : ε) (f : ε → δ) : (Except.error e : Except ε α).mapError f = .error (f e) := rfl

theorem bind_eq_ok_iff (x : Except ε α) (f : α → Except ε β) (b : β) :
    (x >>= f) = .ok b ↔ ∃ a, x = .ok a ∧ f a = .ok b := by
  cases x <;> simp

theorem ite_error_eq_ok_iff (c : Prop) [Decidable c] (e : ε) (x : Except ε α) (a : α) :
    (if c then .error e else x) = .ok a ↔ ¬c ∧ x = .ok a := by
  by_cases h : c <;> simp [h]

theorem mapError_eq_ok_iff (x : Except ε α) (f : ε → δ) (a : α) : x.mapError f = .ok a ↔ x = .ok a := by
  cases x <;> simp

theorem mapError_eq_error_iff (x : Except ε α) (f : ε → δ) (d : δ) :
    x.mapError f = .error d ↔ ∃ e, x = .error e ∧ f e = d := by
  cases x <;> simp

theorem toOption_eq_some_iff (x : Except ε α) (a : α) : x.toOption = some a ↔ x = .ok a := by
  cases x <;> simp [Except.toOption]

theorem mapError_bind (x : Except ε α) (f : α → Except ε β) (g : ε → δ) :
    (x >>= f).mapError g = x.mapError g >>= fun a => (f a).mapError g := by
  cases x <;> rfl

theorem mapM_eq_ok_iff (f : α → Except ε β) (xs : List α) (ys : List β) :
    xs.mapM f = .ok ys ↔ List.Forall₂ (fun x y => f x = .ok y) xs ys := by
  induction xs generalizing ys with
  | nil => rw [List.mapM_nil, pure_eq, Except.ok.injEq, List.forall₂_nil_left_iff, eq_comm]
  | cons x xs ih =>
      simp only [List.mapM_cons, bind_eq_ok_iff, ih, pure_eq, Except.ok.injEq, List.forall₂_cons_left_iff]
      constructor
      · rintro ⟨y, hy, ys, hys, rfl⟩
        exact ⟨y, ys, hy, hys, rfl⟩
      · rintro ⟨y, ys, hy, hys, rfl⟩
        exact ⟨y, hy, ys, hys, rfl⟩

@[simp] theorem lift_range (x : Except RangeError α) : (liftM x : Except Error α) = x.mapError .range := rfl

@[simp] theorem lift_slowHash (x : Except SlowHashError α) : (liftM x : Except Error α) = x.mapError .slowHash := rfl

@[simp] theorem lift_protocol (x : Except ProtocolError α) : (liftM x : Except Error α) = x.mapError .protocol := rfl

@[simp] theorem lift_object (x : Except ObjectError α) : (liftM x : Except Error α) = x.mapError .object := rfl

end PakeRegistration.Outcome

namespace PakeRegistration.Run

open Outcome

variable {α β : Type}

@[simp] theorem outcome_pure (a : α) : (Pure.pure a : Run α).outcome = .ok a := rfl

@[simp] theorem outcome_bind (x : Run α) (f : α → Run β) :
    (x >>= f).outcome = x.outcome >>= fun a => (f a).outcome := by
  rcases x with ⟨events, _ | a⟩ <;> rfl

@[simp] theorem outcome_ofExcept (x : Except Error α) : (ofExcept x).outcome = x := rfl

@[simp] theorem outcome_note (n : Note) : (note n).outcome = .ok () := rfl

@[simp] theorem outcome_lift (x : Except Error α) : (liftM x : Run α).outcome = x := rfl

@[simp] theorem outcome_lift_range (x : Except RangeError α) :
    (liftM x : Run α).outcome = x.mapError .range := rfl

@[simp] theorem outcome_lift_slowHash (x : Except SlowHashError α) :
    (liftM x : Run α).outcome = x.mapError .slowHash := rfl

@[simp] theorem outcome_lift_protocol (x : Except ProtocolError α) :
    (liftM x : Run α).outcome = x.mapError .protocol := rfl

@[simp] theorem outcome_lift_decode (x : Except DecodeError α) :
    (liftM x : Run α).outcome = x.mapError .decode := rfl

@[simp] theorem outcome_lift_argument (x : Except ArgumentError α) :
    (liftM x : Run α).outcome = x.mapError .argument := rfl

theorem ofExcept_ok_bind (a : α) (f : α → Run β) : ofExcept (.ok a) >>= f = f a := rfl

theorem lift_range_ok_bind (a : α) (f : α → Run β) : (liftM (Except.ok a : Except RangeError α) : Run α) >>= f = f a :=
  rfl

theorem bind_of_ok {x : Run α} {a : α} (h : x.outcome = .ok a) (f : α → Run β) :
    x >>= f = ⟨x.events ++ (f a).events, (f a).outcome⟩ := by
  rcases x with ⟨events, outcome⟩
  subst h
  rfl

theorem bind_of_error {x : Run α} {e : Error} (h : x.outcome = .error e) (f : α → Run β) :
    x >>= f = ⟨x.events, .error e⟩ := by
  rcases x with ⟨events, outcome⟩
  subst h
  rfl

theorem draws_bind (x : Run α) (f : α → Run β) (h : ∀ a, (f a).draws = []) : (x >>= f).draws = x.draws := by
  cases hx : x.outcome with
  | error e => rw [bind_of_error hx]; rfl
  | ok a =>
      rw [bind_of_ok hx]
      calc Run.draws ⟨x.events ++ (f a).events, (f a).outcome⟩ = x.draws ++ (f a).draws := List.filterMap_append ..
        _ = x.draws := by rw [h a, List.append_nil]

end PakeRegistration.Run
