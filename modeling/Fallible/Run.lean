import Fallible.Classifier

/-!
# Runs

A computation is run in a session, which knows how many conditions were raised so far, which
classifier is in effect, which events were emitted, and whatever state the caller keeps of its own.
It ends in one of three ways: with a value, by unwinding with a cause, or by unwinding with a panic
that carries no cause. Only `Run.catching` stops an unwinding, and only that of a cause.

## Main definitions

* `Event`: what a run reports
* `Session`: the state a run goes through
* `Outcome`, `Run`: how a run ends, and computations as functions of the session
* `Run.fresh`, `Run.emit`, `Run.throw`, `Run.panic`, `Run.catching`: the primitive steps
-/

namespace Fallible

/-- What a run reports. -/
inductive Event where
  /-- A cause was judged non-fatal and captured. -/
  | captured (cause : Cause)
  /-- A fatal cause starts to unwind. -/
  | escaping (cause : Cause)
  /-- A classifier came into effect. -/
  | installed (classifier : Classifier)
  /-- There was no configuration to install. -/
  | unconfigured
  /-- A configuration could not be read. -/
  | unreadable
  /-- A configuration was read and makes no sense. -/
  | incomprehensible

namespace Event

/-- How loud an event is. -/
def level : Event → String
  | captured _ => "TRACE"
  | escaping _ => "ERROR"
  | installed _ | unconfigured => "DEBUG"
  | unreadable | incomprehensible => "WARN"

/-- What an event says. -/
def message : Event → String
  | captured _ => "Captured non-fatal cause"
  | escaping _ => "Fatal cause escaping composition"
  | installed _ => "Fatal-cause classifier installed"
  | unconfigured => "No recourse config found; keeping the default fatal policy"
  | unreadable => "Failed to read config"
  | incomprehensible => "Failed to parse config"

/-- The fields an event carries, by name. -/
def fields : Event → List (String × String)
  | captured cause | escaping cause => [("cause", cause.text)]
  | installed classifier => [("classifier", classifier.term.line)]
  | unconfigured | unreadable | incomprehensible => []

end Event

/-- The state a run goes through, over a state `σ` that belongs to the caller. -/
structure Session (σ : Type) where
  /-- The identity of the next condition. -/
  next : Nat
  /-- The classifier in effect, once there is one; it is written once. -/
  classifier : Option Classifier
  /-- The events emitted, oldest first. -/
  events : List Event
  caller : σ

/-- The session of a fresh process. -/
def Session.start {σ : Type} (caller : σ) : Session σ where
  next := 0
  classifier := none
  events := []
  caller

/-- How a run ends. -/
inductive Outcome (α : Type) where
  | returned (value : α)
  /-- A cause unwound out of the run. -/
  | thrown (cause : Cause)
  /-- A panic that carries no cause unwound out of the run. -/
  | panicked (text : String)

/-- Computations that run in a session. -/
def Run (σ α : Type) : Type :=
  Session σ → Outcome α × Session σ

namespace Run

variable {σ α β : Type}

/-- Two computations that do the same in every session are the same. -/
theorem ext {m n : Run σ α} (h : ∀ s, m s = n s) : m = n :=
  funext h

instance : Monad (Run σ) where
  pure a := fun s => (.returned a, s)
  bind m f := fun s =>
    match m s with
    | (.returned a, s) => f a s
    | (.thrown c, s) => (.thrown c, s)
    | (.panicked text, s) => (.panicked text, s)

theorem pure_apply (a : α) (s : Session σ) : (pure a : Run σ α) s = (.returned a, s) :=
  rfl

theorem bind_apply (m : Run σ α) (f : α → Run σ β) (s : Session σ) :
    (m >>= f) s = match m s with
      | (.returned a, s) => f a s
      | (.thrown c, s) => (.thrown c, s)
      | (.panicked text, s) => (.panicked text, s) :=
  rfl

/-- Binding runs a computation and goes on only where it returned. -/
instance : LawfulMonad (Run σ) :=
  LawfulMonad.mk' (Run σ)
    (fun m => ext fun s => by
      show (m >>= fun a => pure a) s = m s
      rw [bind_apply]
      rcases m s with ⟨_ | _ | _, _⟩ <;> rfl)
    (fun _ _ => rfl)
    (fun m _ _ => ext fun s => by
      simp only [bind_apply]
      rcases m s with ⟨_ | _ | _, _⟩ <;> rfl)

/-- Takes the identity of a new condition. -/
def fresh : Run σ Nat :=
  fun s => (.returned s.next, { s with next := s.next + 1 })

/-- Reports an event. -/
def emit (e : Event) : Run σ Unit :=
  fun s => (.returned (), { s with events := s.events ++ [e] })

/-- The classifier in effect, if there is one. -/
def classifier? : Run σ (Option Classifier) :=
  fun s => (.returned s.classifier, s)

/-- Puts a classifier into effect. -/
def setClassifier (c : Classifier) : Run σ Unit :=
  fun s => (.returned (), { s with classifier := some c })

/-- A step of the caller's own, on the caller's own state. -/
def call (f : σ → α × σ) : Run σ α :=
  fun s => (.returned (f s.caller).1, { s with caller := (f s.caller).2 })

/-- Unwinds with a cause; nothing is reported. -/
def throw (c : Cause) : Run σ α :=
  fun s => (.thrown c, s)

/-- Unwinds with a panic that carries no cause. -/
def panic (text : String) : Run σ α :=
  fun s => (.panicked text, s)

/-- Runs `body` and gives back as an error a cause that unwound out of it. Other panics go on. -/
def catching (body : Run σ α) : Run σ (Except Cause α) := fun s =>
  match body s with
  | (.returned a, s) => (.returned (.ok a), s)
  | (.thrown c, s) => (.returned (.error c), s)
  | (.panicked text, s) => (.panicked text, s)

end Run

/-! ## Raising causes -/

namespace Cause

variable {σ : Type}

/-- Raises a condition of a kind that wraps nothing. -/
def raise (kind : Kind) (message : Option String) : Run σ Cause := do
  return { condition := { id := ← Run.fresh, kind, message } }

/-- Raises a condition of `kind` around a cause, with the message of that cause. -/
def wrap (kind : Kind) (c : Cause) : Run σ Cause := do
  return {
    condition := { id := ← Run.fresh, kind, message := c.message }
    wrapped := c.chain
    root := c.root }

/-- Raises a condition of `kind` over a foreign error, with what that error says. -/
def adopt (kind : Kind) (error : Foreign) : Run σ Cause := do
  return {
    condition := { id := ← Run.fresh, kind, message := some error.text }
    root := some error }

/-- Raises a condition over an error of input or output. -/
def ofIo (kind : IoKind) (message : Option String) : Run σ Cause :=
  adopt .io (.io kind message)

/-- Something was asked of a value in the wrong state. -/
def invalidState (message : String) : Run σ Cause :=
  raise .invalidState (some message)

/-- An argument was wrong. -/
def invalidArgument (message : String) : Run σ Cause :=
  raise .invalidArgument (some message)

/-- What was asked for is not offered. -/
def unsupported (message : String) : Run σ Cause :=
  raise .unsupported (some message)

/-- What was asked for is not there. -/
def noSuchElement (message : String) : Run σ Cause :=
  raise .noSuchElement (some message)

end Cause

end Fallible
