/-!
# Kinds of conditions

The taxonomy by which conditions are judged and recovered from: a tree rooted at `Kind.any` whose
built-in kinds are fixed and whose caller-defined kinds are all children of `Kind.exception`.

```text
any
├─ fault
│  ├─ linkage
│  ├─ virtualMachine
│  │  ├─ outOfMemory
│  │  └─ stackOverflow
│  ├─ terminated
│  └─ assertion
└─ exception
   ├─ invalidState
   ├─ invalidArgument
   ├─ unsupported
   ├─ noSuchElement
   │  └─ predicateNotSatisfied
   ├─ nonFatal
   ├─ io
   └─ other name
```

## Main definitions

* `Kind.name`, `Kind.ofName`: a kind travels as its name
* `Kind.lookup`, `Kind.adopt`, `Kind.custom`, `Kind.parse`, `Kind.intoName`: the ways from a name to
  a kind and back
* `Kind.parent`, `Kind.lineage`: the tree, as a step and as the path to its root
* `Kind.isA`: being a kind or one of its descendants
-/

namespace Fallible

/-- The category of a condition. -/
inductive Kind where
  | any
  /-- Faults of the executing environment, not of the application. -/
  | fault
  | linkage
  | virtualMachine
  | outOfMemory
  | stackOverflow
  /-- Forced end of the running computation. -/
  | terminated
  | assertion
  /-- Ordinary errors of the application. -/
  | exception
  | invalidState
  | invalidArgument
  | unsupported
  | noSuchElement
  | predicateNotSatisfied
  /-- A captured cause that surfaced again. -/
  | nonFatal
  | io
  /-- A kind the caller defines. -/
  | other (name : String)
  deriving DecidableEq, Inhabited

namespace Kind

/-- The name a kind is written by. -/
def name : Kind → String
  | any => "Any"
  | fault => "Fault"
  | linkage => "Linkage"
  | virtualMachine => "VirtualMachine"
  | outOfMemory => "OutOfMemory"
  | stackOverflow => "StackOverflow"
  | terminated => "Terminated"
  | assertion => "Assertion"
  | exception => "Exception"
  | invalidState => "InvalidState"
  | invalidArgument => "InvalidArgument"
  | unsupported => "Unsupported"
  | noSuchElement => "NoSuchElement"
  | predicateNotSatisfied => "PredicateNotSatisfied"
  | nonFatal => "NonFatal"
  | io => "Io"
  | other name => name

/-- The kinds that are fixed, every one but the caller-defined. -/
def builtins : List Kind :=
  [any, fault, linkage, virtualMachine, outOfMemory, stackOverflow, terminated, assertion,
    exception, invalidState, invalidArgument, unsupported, noSuchElement, predicateNotSatisfied,
    nonFatal, io]

/-- The kind a name stands for: the built-in kind of that name, else a caller-defined one. -/
def ofName (name : String) : Kind :=
  (builtins.find? (·.name == name)).getD (other name)

/-- The table of names, read from a name to its kind. -/
def lookup : String → Kind
  | "Any" => any
  | "Fault" => fault
  | "Linkage" => linkage
  | "VirtualMachine" => virtualMachine
  | "OutOfMemory" => outOfMemory
  | "StackOverflow" => stackOverflow
  | "Terminated" => terminated
  | "Assertion" => assertion
  | "Exception" => exception
  | "InvalidState" => invalidState
  | "InvalidArgument" => invalidArgument
  | "Unsupported" => unsupported
  | "NoSuchElement" => noSuchElement
  | "PredicateNotSatisfied" => predicateNotSatisfied
  | "NonFatal" => nonFatal
  | "Io" => io
  | name => other name

/-- The kind of a name that is given away: a caller-defined kind keeps the very name. -/
def adopt (name : String) : Kind :=
  match lookup name with
  | other _ => other name
  | known => known

/-- The kind that a caller defines by its name; the name of a built-in kind yields that kind. -/
def custom (name : String) : Kind :=
  adopt name

/-- The kind that a text spells. Every text spells one. -/
def parse (text : String) : Except Empty Kind :=
  .ok (lookup text)

/-- The name of a kind that is given up for it. -/
def intoName : Kind → String
  | other name => name
  | known => known.name

/-- The direct ancestor of a kind; only `any` has none. -/
def parent : Kind → Option Kind
  | any => none
  | fault | exception => some any
  | linkage | virtualMachine | terminated | assertion => some fault
  | outOfMemory | stackOverflow => some virtualMachine
  | predicateNotSatisfied => some noSuchElement
  | invalidState | invalidArgument | unsupported | noSuchElement | nonFatal | io | other _ =>
    some exception

/-- How many ancestors a kind has. -/
def depth : Kind → Nat
  | any => 0
  | fault | exception => 1
  | outOfMemory | stackOverflow | predicateNotSatisfied => 3
  | _ => 2

/-- A parent lies one step nearer to the root. -/
theorem depth_of_parent {k p : Kind} (h : k.parent = some p) : k.depth = p.depth + 1 := by
  cases k <;> simp [parent] at h <;> subst h <;> rfl

/-- A kind, its parent, the parent of that, and so on to `any`. -/
def lineage (k : Kind) : List Kind :=
  k :: match _h : k.parent with
    | none => []
    | some p => p.lineage
termination_by k.depth
decreasing_by have := depth_of_parent _h; omega

/-- Whether a kind is `ancestor` or one of its descendants. -/
def isA (k ancestor : Kind) : Bool :=
  ancestor == any || k == ancestor ||
    match _h : k.parent with
    | none => false
    | some p => p.isA ancestor
termination_by k.depth
decreasing_by have := depth_of_parent _h; omega

end Kind

end Fallible
