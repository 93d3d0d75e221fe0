import Fallible.Run

/-!
# Capturing causes

A cause that caller code hands back is judged by the classifier in effect. A non-fatal one is
captured and becomes data; a fatal one is never captured: it unwinds out of whatever runs, as the
very cause it is.

The classifier is chosen once for a whole run, by installing one or else by the first judgement,
which puts the standard one into effect.

## Main definitions

* `Classifier.active`, `Classifier.install`: the classifier in effect, and choosing it
* `Cause.judge`: whether a cause is fatal
* `Captured`, `Captured.ofCause`, `Captured.capture`: causes judged non-fatal
-/

namespace Fallible

variable {σ : Type}

namespace Classifier

/-- The classifier in effect. Asking for it puts the standard one into effect if there is none. -/
def active : Run σ Classifier := do
  match ← Run.classifier? with
  | some c => return c
  | none =>
    Run.setClassifier standard
    return standard

/-- Why a classifier was not installed. -/
inductive InstallError where
  /-- One is in effect already. -/
  | alreadyActive
  deriving DecidableEq

/-- What the error says. -/
def InstallError.message : InstallError → String
  | alreadyActive => "a fatal-cause classifier is already active"

/-- Puts a classifier into effect, unless there is one already. -/
def install (c : Classifier) : Run σ (Except InstallError Unit) := do
  match ← Run.classifier? with
  | some _ => return .error .alreadyActive
  | none =>
    Run.setClassifier c
    Run.emit (.installed c)
    return .ok ()

end Classifier

namespace Cause

/-- Whether the classifier in effect finds a cause fatal. -/
def judge (c : Cause) : Run σ Bool := do
  return (← Classifier.active).isFatal c

/-- Reports a cause as escaping and unwinds with it. -/
def rethrow {α : Type} (c : Cause) : Run σ α := do
  Run.emit (.escaping c)
  Run.throw c

end Cause

/-- A cause that was judged non-fatal. Only judging one yields it. -/
structure Captured where
  cause : Cause

namespace Captured

/-- Captured causes are compared by identity. -/
instance : BEq Captured :=
  ⟨fun a b => a.cause == b.cause⟩

instance : Displayed Captured :=
  ⟨fun c => c.cause.text⟩

instance : Shown Captured :=
  ⟨fun c => Shown.term c.cause⟩

/-- The refusal to capture a cause, because it is fatal. -/
structure Refusal where
  cause : Cause

/-- What the refusal says. -/
def Refusal.message (r : Refusal) : String :=
  "fatal cause cannot be captured: " ++ r.cause.text

/-- Judges a cause and keeps it if it is non-fatal. Nothing is reported. -/
def ofCause (c : Cause) : Run σ (Except Refusal Captured) := do
  if ← c.judge then return .error ⟨c⟩ else return .ok ⟨c⟩

/-- Captures a cause, or unwinds with it if it is fatal; either is reported. -/
def capture (c : Cause) : Run σ Captured := do
  match ← ofCause c with
  | .ok captured =>
    Run.emit (.captured captured.cause)
    return captured
  | .error refusal => refusal.cause.rethrow

end Captured

end Fallible
