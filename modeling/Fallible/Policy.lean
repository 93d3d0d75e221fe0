import Fallible.Kind
import Fallible.Text.Term

/-!
# Policies of fatality

A policy lists the kinds whose causes must never be captured: a cause is fatal when its kind is, or
descends from, a listed kind. The list keeps the order in which kinds were added and holds none
twice.
-/

namespace Fallible

/-- The kinds listed as fatal. -/
structure Policy where
  kinds : List Kind
  nodup : kinds.Nodup

namespace Policy

/-- Policies are equal when they list the same kinds in the same order. -/
@[ext] theorem ext_kinds {p q : Policy} (h : p.kinds = q.kinds) : p = q := by
  cases p; cases q; cases h; rfl

instance : DecidableEq Policy := fun p q =>
  decidable_of_iff (p.kinds = q.kinds) ⟨ext_kinds, fun h => h ▸ rfl⟩

/-- The policy under which nothing is fatal. -/
def empty : Policy :=
  ⟨[], .nil⟩

/-- Lists a kind as well, after the others; a listed kind keeps its place. -/
def withKind (p : Policy) (k : Kind) : Policy :=
  if h : k ∈ p.kinds then p
  else
    ⟨p.kinds ++ [k], List.nodup_append.2 ⟨p.nodup, by simp, by
      intro a ha b hb; simp only [List.mem_singleton] at hb; subst hb; exact fun e => h (e ▸ ha)⟩⟩

/-- Lists a kind no more. -/
def withoutKind (p : Policy) (k : Kind) : Policy :=
  ⟨p.kinds.filter (· != k), p.nodup.filter _⟩

/-- The policy that lists the given kinds, each at its first place. -/
def ofList (kinds : List Kind) : Policy :=
  kinds.foldl withKind empty

/-- The kinds that are fatal unless a policy says otherwise. -/
def defaultKinds : List Kind :=
  [.linkage, .virtualMachine, .terminated]

/-- The policy in effect where none was chosen. -/
def standard : Policy :=
  ofList defaultKinds

instance : Inhabited Policy :=
  ⟨standard⟩

/-- Whether a cause of this kind is fatal. -/
def isFatal (p : Policy) (k : Kind) : Bool :=
  p.kinds.any k.isA

end Policy

end Fallible
