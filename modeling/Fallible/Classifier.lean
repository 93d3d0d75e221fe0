import Fallible.Cause
import Fallible.Policy

/-!
# Classifiers

A classifier decides which causes are fatal. A policy is one, by its list of kinds; a caller may
bring another.
-/

namespace Fallible

/-- A judge of causes, with the form in which it is shown. -/
structure Classifier where
  isFatal : Cause → Bool
  term : Term

instance : Shown Classifier :=
  ⟨Classifier.term⟩

/-- A policy is shown with its list of kinds. -/
instance : Shown Policy where
  term p := .record "FatalPolicy" [("kinds", .list (p.kinds.map Shown.term))]

/-- The classifier that judges a cause by a policy: its outermost kind decides. -/
def Policy.classifier (p : Policy) : Classifier where
  isFatal c := p.isFatal c.kind
  term := Shown.term p

namespace Classifier

/-- Whether `part` stands somewhere in a text. -/
def contains (part : List Char) : List Char → Bool
  | [] => part.isEmpty
  | c :: rest => part.isPrefixOf (c :: rest) || contains part rest

/-- The classifier that finds a cause fatal when its message exists and contains `part`. -/
def byMessage (part : String) : Classifier where
  isFatal c := c.message.any fun message => contains part.toList message.toList
  term := .tuple "ByMessage" [.quoted part]

/-- The classifier in effect where none was installed. -/
def standard : Classifier :=
  Policy.standard.classifier

end Classifier

end Fallible
