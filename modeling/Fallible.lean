import Fallible.Config.Load
import Fallible.Proofs.Program.Captured
import Fallible.Proofs.Unwinding.Context
import Fallible.Proofs.Codec.Reload
import Fallible.Proofs.History.Basic
import Fallible.Proofs.History.Operations
import Fallible.Proofs.History.Traced
import Fallible.Proofs.History.Own
import Fallible.Proofs.Codec.Reading
import Fallible.Proofs.History.FirstWriter
import Fallible.Proofs.History.Laxer
import Fallible.Proofs.History.Exact
import Fallible.Proofs.Config.Edits
import Fallible.Proofs.Config.Installed
import Fallible.Proofs.Codec.Normal
import Fallible.Proofs.Config.Outcomes
import Fallible.Proofs.Unwinding.Alike
import Fallible.Proofs.Pipeline.Passing
import Fallible.Proofs.Pipeline.Account
import Fallible.Proofs.Codec.Grammar
import Fallible.Proofs.Codec.Filter
import Fallible.Proofs.Combinators
import Fallible.Proofs.Program.Reraised
import Fallible.Proofs.Recovery
import Fallible.Proofs.Predicates
import Fallible.Proofs.Sequencing
import Fallible.Proofs.Policy.Subsumption
import Fallible.Proofs.Policy.History
import Fallible.Proofs.Surfacing
import Fallible.Proofs.Config.Acceptance
import Fallible.Proofs.Lineage
import Fallible.Proofs.Naming
import Fallible.Proofs.Equality.Lawful
import Fallible.Proofs.Equality.Sets
import Fallible.Proofs.Composition
import Fallible.Proofs.Program.Raised
