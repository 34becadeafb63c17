import PakeRegistration.Proofs.Outcome

/-!
Runs compared two at a time. Two runs are alike when they have the same events and end in the same error, or in results
that a relation holds of; what holds of two runs and of what follows them holds of the whole. What is seen of a run from
outside is a run as well, one that ends without a result.
-/

namespace PakeRegistration

namespace Outcome

/-- Two results that are both there, as the relation has it, or that are the same error. -/
inductive Alike {ε α β : Type} (R : α → β → Prop) : Except ε α → Except ε β → Prop
  | ok {a : α} {b : β} (h : R a b) : Alike R (.ok a) (.ok b)
  | error (e : ε) : Alike R (.error e) (.error e)

variable {ε α β : Type} {R : α → β → Prop} {x : Except ε α} {y : Except ε β}

theorem Alike.guard {c d : Prop} [Decidable c] [Decidable d] (hcd : c ↔ d) (e : ε) (h : ¬c → Alike R x y) :
    Alike R (if c then .error e else x) (if d then .error e else y) := by
  by_cases hc : c
  · rw [if_pos hc, if_pos (hcd.mp hc)]
    exact .error e
  · rw [if_neg hc, if_neg fun hd => hc (hcd.mpr hd)]
    exact h hc

end Outcome

namespace Run

/-- Two runs with the same events and results that are alike. -/
structure Alike {α β : Type} (R : α → β → Prop) (x : Run α) (y : Run β) : Prop where
  events : x.events = y.events
  outcome : Outcome.Alike R x.outcome y.outcome

variable {α β α' β' : Type} {R : α → β → Prop} {S : α' → β' → Prop}

theorem Alike.cases {x : Run α} {y : Run β} (h : Alike R x y) :
    (∃ events a b, R a b ∧ x = ⟨events, .ok a⟩ ∧ y = ⟨events, .ok b⟩) ∨
      ∃ events e, x = ⟨events, .error e⟩ ∧ y = ⟨events, .error e⟩ := by
  rcases x with ⟨events, x⟩
  rcases y with ⟨events', y⟩
  obtain ⟨rfl, houtcome⟩ := h
  have houtcome : Outcome.Alike R x y := houtcome
  cases houtcome with
  | ok hab => exact Or.inl ⟨_, _, _, hab, rfl, rfl⟩
  | error e => exact Or.inr ⟨_, e, rfl, rfl⟩

theorem Alike.bind {x : Run α} {y : Run β} {f : α → Run α'} {g : β → Run β'} (h : Alike R x y)
    (hf : ∀ a b, R a b → Alike S (f a) (g b)) : Alike S (x >>= f) (y >>= g) := by
  obtain ⟨events, a, b, hab, rfl, rfl⟩ | ⟨events, e, rfl, rfl⟩ := h.cases
  · obtain ⟨hevents, hlast⟩ := hf a b hab
    exact ⟨congrArg (events ++ ·) hevents, hlast⟩
  · exact ⟨rfl, .error e⟩

/-- What is done without events after one of two runs. -/
theorem Alike.bind_pure {x : Run α} {y : Run β} {f : α → Run α'} {S : α' → β → Prop} (h : Alike R x y)
    (hf : ∀ a b, R a b → ∃ a', f a = Pure.pure a' ∧ S a' b) : Alike S (x >>= f) y := by
  obtain ⟨events, a, b, hab, rfl, rfl⟩ | ⟨events, e, rfl, rfl⟩ := h.cases
  · obtain ⟨a', ha, hS⟩ := hf a b hab
    rw [bind_of_ok (a := a) rfl, ha]
    exact ⟨List.append_nil events, .ok hS⟩
  · exact ⟨rfl, .error e⟩

theorem alike_pure {a : α} {b : β} (h : R a b) : Alike R (Pure.pure a) (Pure.pure b) :=
  ⟨rfl, .ok h⟩

theorem alike_fail (e : Error) : Alike R (fail e) (fail e) :=
  ⟨rfl, .error e⟩

theorem alike_note_bind {f : Unit → Run α} {g : Unit → Run β} (n : Note) (h : Alike R (f ()) (g ())) :
    Alike R (note n >>= f) (note n >>= g) :=
  Alike.bind ⟨rfl, .ok rfl⟩ fun _ _ (_ : (_ : Unit) = _) => h

/-- Nothing that is seen from outside tells the two runs apart. -/
structure Indistinct (x : Run α) (y : Run β) : Prop where
  log : x.notes.map Note.text = y.notes.map Note.text
  draws : x.draws = y.draws
  outcome : (∃ a b, x.outcome = .ok a ∧ y.outcome = .ok b) ∨ ∃ e, x.outcome = .error e ∧ y.outcome = .error e

theorem Alike.indistinct {x : Run α} {y : Run β} (h : Alike R x y) : Indistinct x y where
  log := by rw [notes, notes, h.events]
  draws := by rw [draws, draws, h.events]
  outcome := by
    obtain ⟨_, a, b, -, rfl, rfl⟩ | ⟨_, e, rfl, rfl⟩ := h.cases
    · exact Or.inl ⟨a, b, rfl, rfl⟩
    · exact Or.inr ⟨e, rfl, rfl⟩

/-- What is seen of a run from outside: everything but the result that it ends in. -/
def seen (x : Run α) : Run Unit := ⟨x.events, x.outcome.map fun _ => ()⟩

theorem Alike.seen_eq {R : α → Unit → Prop} {x : Run α} {y : Run Unit} (h : Alike R x y) : x.seen = y := by
  obtain ⟨_, _, _, -, rfl, rfl⟩ | ⟨_, _, rfl, rfl⟩ := h.cases
  · rfl
  · rfl

theorem seen_of_ok {x : Run α} {a : α} (h : x.outcome = .ok a) : x.seen.outcome = .ok () := by rw [seen, h]; rfl

theorem seen_of_error {x : Run α} {e : Error} (h : x.outcome = .error e) : x.seen.outcome = .error e := by
  rw [seen, h]; rfl

theorem Indistinct.seen {x : Run α} {y : Run β} (h : Indistinct x y) : Indistinct x.seen y.seen where
  log := h.log
  draws := h.draws
  outcome := by
    rcases h.outcome with ⟨_, _, hx, hy⟩ | ⟨e, hx, hy⟩
    · exact Or.inl ⟨(), (), seen_of_ok hx, seen_of_ok hy⟩
    · exact Or.inr ⟨e, seen_of_error hx, seen_of_error hy⟩

theorem Indistinct.ok_iff {x y : Run Unit} (h : Indistinct x y) : x.outcome = .ok () ↔ y.outcome = .ok () := by
  rcases h.outcome with ⟨_, _, hx, hy⟩ | ⟨e, hx, hy⟩
  · rw [hx, hy]
  · rw [hx, hy]

theorem alike_outcome_of_seen {x : Run α} {y : Run β} (h : x.seen.outcome = y.seen.outcome) :
    Outcome.Alike (fun _ _ => True) x.outcome y.outcome := by
  rcases x with ⟨_, e | a⟩ <;> rcases y with ⟨_, e' | b⟩ <;> cases h
  · exact .error e
  · exact .ok trivial

theorem indistinct_of_seen {x : Run α} {y : Run β} (h : x.seen = y.seen) : Indistinct x y :=
  Alike.indistinct ⟨congrArg (·.events) h, alike_outcome_of_seen (congrArg (·.outcome) h)⟩

end Run

end PakeRegistration
