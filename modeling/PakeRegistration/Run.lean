import PakeRegistration.Error

/-!
Runs of the engine: what a run did that can be seen from outside, in order, and how it came out. A run draws from
the random source and writes notes; both are events, and the lines of the log and the number of draws are read
off them.
-/

namespace PakeRegistration

inductive Note
  | unusableBlind (attempt : Nat)
  | rejectedBlind (attempt : Nat)
  | started (suite : String)
  | zeroDerivation (counter : Nat)
  | finished (envelope : Nat)
deriving DecidableEq, Repr

def Note.text : Note → String
  | unusableBlind attempt => s!"Discarding unusable blind on attempt {attempt}"
  | rejectedBlind attempt => s!"Blinded element rejected on attempt {attempt}"
  | started suite => s!"Registration started with {suite}"
  | zeroDerivation counter => s!"Derived zero scalar at counter {counter}"
  | finished envelope => s!"Registration finished, envelope of {envelope} bytes"

inductive Event
  | drew (count : Int)
  | noted (note : Note)
deriving DecidableEq, Repr

structure Run (α : Type) where
  events : List Event
  outcome : Except Error α

namespace Run

variable {α β : Type}

def pure (a : α) : Run α := ⟨[], .ok a⟩

/-- One run after another; an error stops here, with the events so far. -/
def bind (x : Run α) (f : α → Run β) : Run β :=
  match x.outcome with
  | .error e => ⟨x.events, .error e⟩
  | .ok a =>
      let y := f a
      ⟨x.events ++ y.events, y.outcome⟩

instance : Monad Run where
  pure := pure
  bind := bind

def ofExcept (x : Except Error α) : Run α := ⟨[], x⟩

instance : MonadLift (Except Error) Run := ⟨ofExcept⟩

def fail (e : Error) : Run α := ⟨[], .error e⟩

def note (n : Note) : Run Unit := ⟨[.noted n], .ok ()⟩

def notes (x : Run α) : List Note :=
  x.events.filterMap fun
    | .noted n => some n
    | .drew _ => none

def draws (x : Run α) : List Int :=
  x.events.filterMap fun
    | .drew count => some count
    | .noted _ => none

end Run

end PakeRegistration
