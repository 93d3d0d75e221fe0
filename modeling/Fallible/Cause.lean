import Fallible.Foreign
import Fallible.Kind

/-!
# Causes

A cause is what a fallible computation hands back in place of a result: a stack of conditions, each
wrapping the next, that may rest on a foreign error. A condition is raised once and has an identity;
two handles are the same cause when their outermost conditions are the same, whatever they say.

## Main definitions

* `Condition`: one raised condition
* `Cause`: a condition with what it wraps; `==` compares identities
* `Cause.wrapped?`, `Cause.chain`: the cause beneath, and all of them
* `Cause.text`, `Cause.term`, `Cause.sources`: how a cause is shown
-/

namespace Fallible

/-- A raised condition. -/
structure Condition where
  /-- Which condition of the run this is. -/
  id : Nat
  kind : Kind
  message : Option String
  deriving DecidableEq, Inhabited

namespace Condition

/-- What a condition says: its kind, and its message after a colon. -/
def text (c : Condition) : String :=
  match c.message with
  | none => c.kind.name
  | some message => c.kind.name ++ ": " ++ message

end Condition

/-- A condition and the conditions it wraps, resting on a foreign error or on nothing. -/
structure Cause where
  /-- The condition itself. -/
  condition : Condition
  /-- The conditions wrapped by it, outermost first. -/
  wrapped : List Condition := []
  /-- The foreign error beneath the innermost condition. -/
  root : Option Foreign := none

namespace Cause

/-- The identity of a cause. -/
def id (c : Cause) : Nat :=
  c.condition.id

/-- The kind a cause is judged by. -/
def kind (c : Cause) : Kind :=
  c.condition.kind

/-- The message of a cause. -/
def message (c : Cause) : Option String :=
  c.condition.message

/-- Whether a cause's kind is `kind` or one of its descendants. -/
def isA (c : Cause) (kind : Kind) : Bool :=
  c.kind.isA kind

/-- Causes are compared by identity, never by what they say. -/
instance : BEq Cause :=
  ⟨fun a b => a.id == b.id⟩

/-- The cause that a cause wraps. -/
def wrapped? (c : Cause) : Option Cause :=
  match c.wrapped with
  | [] => none
  | next :: rest => some { condition := next, wrapped := rest, root := c.root }

/-- Every condition of a cause, outermost first. -/
def chain (c : Cause) : List Condition :=
  c.condition :: c.wrapped

/-- The foreign error a cause rests on directly. -/
def foreign? (c : Cause) : Option Foreign :=
  match c.wrapped with
  | [] => c.root
  | _ :: _ => none

/-- What a cause says: what its outermost condition says. -/
def text (c : Cause) : String :=
  c.condition.text

instance : Displayed Cause :=
  ⟨text⟩

/-- What each error beneath a cause says, the nearest first. -/
def sources (c : Cause) : List String :=
  c.wrapped.map Condition.text ++
    match c.root with
    | none => []
    | some error => error.text :: error.beneath

end Cause

/-- The text of a kind is its name. -/
instance : Displayed Kind :=
  ⟨Kind.name⟩

/-- A kind is shown by its name; a caller-defined kind says that it is one. -/
instance : Shown Kind where
  term
    | .other name => .tuple "Other" [.quoted name]
    | kind => .word kind.name

namespace Cause

/-- How a condition is shown over the conditions it wraps and the error they rest on. -/
def chainTerm (root : Option Foreign) (outer : Condition) : List Condition → Term
  | [] => fieldsOf outer (root.map fun error => ("foreign", error.term)).toList
  | next :: rest => fieldsOf outer [("wrapped", chainTerm root next rest)]
where
  /-- A condition's own fields, the message only if there is one, and then `source`. -/
  fieldsOf (c : Condition) (source : List (String × Term)) : Term :=
    .record "Cause" <|
      ("kind", Shown.term c.kind) ::
        ((c.message.map fun message => ("message", Term.quoted message)).toList ++ source)

instance : Shown Cause where
  term c := chainTerm c.root c.condition c.wrapped

end Cause

end Fallible
