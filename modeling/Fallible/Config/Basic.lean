import Fallible.Policy

/-!
# Configuration of the policy

A configuration may hold a table that describes a policy: whether to start from the default kinds,
which kinds to add, and which to take away again, whatever put them there.
-/

namespace Fallible

/-- The table that describes a policy. -/
structure Config.Fatal where
  /-- Whether to start from the kinds that are fatal by default. -/
  includeDefaults : Bool := true
  /-- The kinds to add. -/
  kinds : List Kind := []
  /-- The kinds to take away. -/
  exclude : List Kind := []
  deriving DecidableEq

/-- A configuration. -/
structure Config where
  fatal : Option Config.Fatal := none
  deriving DecidableEq

namespace Config

/-- The policy that a table describes. -/
def Fatal.policy (f : Fatal) : Policy :=
  let base := if f.includeDefaults then Policy.standard else Policy.empty
  f.exclude.foldl Policy.withoutKind (f.kinds.foldl Policy.withKind base)

/-- The policy of a configuration: the default one where none is described. -/
def policy (c : Config) : Policy :=
  match c.fatal with
  | none => Policy.standard
  | some f => f.policy

end Config

end Fallible
