import Fallible.Codec.Decode
import Fallible.Codec.Encode
import Fallible.Config.Load
import Fallible.Proofs.Leaves

/-!
# Programs over the library

A caller of the library holds the answers it was given, looks at them, and calls one operation after
the other. Where an operation takes a function, the function is a program too: it finds its argument
among the answers held, may call operations of its own, and in the end answers with a value, answers
with a cause, throws or panics. What the caller does between two calls is not restricted, but for
one thing: a captured cause cannot be made up. A failure that a caller writes down is one that it
holds.

An operation meant for an attempt or a maybe panics on a value of another sort.

## Main definitions

* `Answer`, `Live`: what a caller holds
* `Recipe`: a value that a caller makes of what it holds
* `View`: a value looked at as something more special
* `Operation`, `Operation.perform`: the operations, each with up to two functions
* `Program`, `Program.run`: programs, and running them
-/

namespace Fallible

open Carrier (carries)

/-! ## What a caller holds -/

/-- An answer of the library: a value, on the side of success or on the side of error. -/
abbrev Answer := Except Value Value

/-- The answers that a caller holds, the newest first. -/
abbrev Live := List Answer

/-- What caller code does. -/
abbrev Body := Run Live (Except Cause Value)

namespace Answer

/-- The value of an answer, on whichever side it stands. -/
def value : Answer → Value
  | .ok v => v
  | .error v => v

/-- An answer that may be a cause instead. -/
def ofResult {α : Type} (embed : α → Value) : Except Cause α → Answer
  | .ok a => .ok (embed a)
  | .error c => .error (.cause c)

/-- An answer that is an attempt. -/
def ofAttempt (t : Attempt Value) : Answer :=
  .ok (.ofAttempt t)

/-- An answer that is an attempt whose value is a cause. -/
def ofSwapped : Attempt Cause → Answer
  | .success c => .ok (.success (.cause c))
  | .failure c => .ok (.failure c)

/-- An answer that is a maybe. -/
def ofMaybe (m : Maybe Value) : Answer :=
  .ok (.ofMaybe m)

/-- An answer that stands on the right or on the left. -/
def ofSum : Value ⊕ Value → Answer
  | .inl v => .error v
  | .inr v => .ok v

end Answer

/-- A value that a caller makes of what it holds; it makes up no captured cause. -/
structure Recipe where
  make : Live → Value
  honest : ∀ live c, carries (make live) (.captured c) → ∃ a ∈ live, carries a (.captured c)

/-- A value looked at as something more special, in which no cause is made up. -/
structure View (α : Type) [Carrier α] where
  read : Value → Option α
  honest : ∀ {v a m}, read v = some a → carries a m → carries v m

namespace View

/-- The value itself. -/
def self : View Value :=
  ⟨some, fun h hm => Option.some.inj h ▸ hm⟩

def attempt : View (Attempt Value) :=
  ⟨Value.toAttempt?, Value.carries_of_toAttempt?⟩

def maybe : View (Maybe Value) :=
  ⟨Value.toMaybe?, Value.carries_of_toMaybe?⟩

def cause : View Cause :=
  ⟨Value.toCause?, Value.carries_of_toCause?⟩

def option : View (Option Value) :=
  ⟨Value.toOption?, Value.carries_of_toOption?⟩

def bool : View Bool where
  read
    | .bool b => some b
    | _ => none
  honest _ hm := hm.elim

/-- Nothing is asked of the value. -/
def ignored : View Unit :=
  ⟨fun _ => some (), fun _ hm => hm.elim⟩

end View

/-! ## Functions that a caller passes -/

namespace Body

variable {α : Type} [Carrier α]

/-- The caller holds one answer more. -/
def hold (a : Answer) : Run Live Unit :=
  Run.call fun live => ((), a :: live)

/-- The answers held. -/
def held : Run Live Live :=
  Run.call fun live => (live, live)

/-- What a value is when it is looked at in one way; it must be of the right sort. -/
def see (view : View α) (v : Value) : Run Live α :=
  match view.read v with
  | some a => return a
  | none => Run.panic "a value of another sort"

/-- A value made of those held, looked at in one way. -/
def receive (view : View α) (r : Recipe) : Run Live α := do
  see view (r.make (← held))

/-- Caller code as a checked function, which finds its argument among the answers held. -/
def checked (view : View α) (body : Body) : Checked Live Value α := fun v => do
  hold (.ok v)
  match ← body with
  | .ok w => return .ok (← see view w)
  | .error c => return .error c

/-- Caller code as a function that answers with no cause: it throws it. -/
def plain (view : View α) (body : Body) (v : Value) : Run Live α := do
  match ← checked view body v with
  | .ok a => return a
  | .error c => Run.throw c

/-- Caller code under the protection of the host: whatever unwinds out of it becomes its answer. -/
def shielded (body : Body) : Run Live Answer := fun s =>
  match body s with
  | (.returned answer, s) => (.returned (.ofResult id answer), s)
  | (.thrown c, s) => (.returned (.error (.cause c)), s)
  | (.panicked text, s) => (.returned (.error (.text text)), s)

end Body

open Body (checked plain see receive)

/-! ## Operations on attempts -/

/-- What may be asked of an attempt. -/
inductive Attempt.Call where
  | isSuccess
  | isFailure
  | get
  | toExcept
  | getCause
  | handle
  | toOption
  | toMaybe
  | toList
  | join
  | getOrElse (other : Recipe)
  | getOrElseGet
  | getOrElseThrow
  | toSum
  | fold
  | map
  | flatMap
  | filter
  | filterOr
  | mapFailure
  | recover (kind : Kind)
  | recoverWith (kind : Kind)
  | orElse
  | transform
  | failed
  | forEach
  | onSuccess
  | onFailure

/-- An attempt whose value is looked at as an option. -/
def Attempt.ofOption? : Attempt Value → Option (Attempt (Option Value))
  | .success v => v.toOption?.map .success
  | .failure c => some (.failure c)

/-- The answer to a call on an attempt, with the functions `f` and `g`. -/
def Attempt.Call.perform (t : Attempt Value) (f g : Body) : Attempt.Call → Run Live Answer
  | isSuccess => return .ok (.bool t.isSuccess)
  | isFailure => return .ok (.bool t.isFailure)
  | get => Answer.ofResult id <$> t.get
  | toExcept => return Answer.ofResult id t.toExcept
  | getCause => Answer.ofResult .cause <$> t.getCause
  | handle => return .ofAttempt t.handle
  | toOption => return .ok (.ofOption t.toOption)
  | toMaybe => return .ofMaybe t.toMaybe
  | toList => return .ok (.list t.toList)
  | join =>
    match Attempt.ofOption? t with
    | some t => return .ok (.ofOption t.join)
    | none => Run.panic "a value of another sort"
  | getOrElse other => do return .ok (t.getOrElse (← receive .self other))
  | getOrElseGet => .ok <$> t.getOrElseGet (plain .self f .unit)
  | getOrElseThrow => t.getOrElseThrow fun c => plain .self f (.cause c)
  | toSum => Answer.ofSum <$> t.toSum fun c => plain .self f (.cause c)
  | fold => .ok <$> t.fold (fun c => plain .self f (.cause c)) (plain .self g)
  | map => Answer.ofAttempt <$> t.map (checked .self f)
  | flatMap => Answer.ofAttempt <$> t.flatMap (checked .attempt f)
  | filter => Answer.ofAttempt <$> t.filter (checked .bool f)
  | filterOr => Answer.ofAttempt <$> t.filterOr (checked .bool f) (plain .cause g)
  | mapFailure => Answer.ofAttempt <$> t.mapFailure fun c => checked .cause f (.cause c)
  | recover kind => Answer.ofAttempt <$> t.recover kind fun c => checked .self f (.cause c)
  | recoverWith kind =>
    Answer.ofAttempt <$> t.recoverWith kind fun c => checked .attempt f (.cause c)
  | orElse => Answer.ofAttempt <$> t.orElse (checked .attempt f .unit)
  | transform =>
    Answer.ofAttempt <$>
      t.transform (fun c => checked .attempt f (.cause c)) (checked .attempt g)
  | failed => Answer.ofSwapped <$> t.failed
  | forEach => Answer.ofResult (fun () => .unit) <$> t.forEach (checked .ignored f)
  | onSuccess => Answer.ofResult .ofAttempt <$> t.onSuccess (checked .ignored f)
  | onFailure =>
    Answer.ofResult .ofAttempt <$> t.onFailure fun c => checked .ignored f (.cause c)

/-! ## Operations on maybes -/

/-- What may be asked of a maybe. -/
inductive Maybe.Call where
  | isPresent
  | isAbsent
  | get
  | handle
  | toOption
  | toList
  | getOrElse (other : Recipe)
  | getOrElseGet
  | getOrElseThrow
  | toSum
  | fold
  | filter
  | map
  | flatMap
  | orElse
  | transform
  | onAbsent
  | onPresent
  | toAttempt

/-- The answer to a call on a maybe, with the functions `f` and `g`. -/
def Maybe.Call.perform (m : Maybe Value) (f g : Body) : Maybe.Call → Run Live Answer
  | isPresent => return .ok (.bool m.isPresent)
  | isAbsent => return .ok (.bool m.isAbsent)
  | get => Answer.ofResult id <$> m.get
  | handle => return .ofMaybe m.handle
  | toOption => return .ok (.ofOption m.toOption)
  | toList => return .ok (.list m.toList)
  | getOrElse other => do return .ok (m.getOrElse (← receive .self other))
  | getOrElseGet => .ok <$> m.getOrElseGet (plain .self f .unit)
  | getOrElseThrow => m.getOrElseThrow (plain .self f .unit)
  | toSum => Answer.ofSum <$> m.toSum (plain .self f .unit)
  | fold => .ok <$> m.fold (plain .self f .unit) (plain .self g)
  | filter => Answer.ofMaybe <$> m.filter (plain .bool f)
  | map => Answer.ofMaybe <$> m.map (plain .self f)
  | flatMap => Answer.ofMaybe <$> m.flatMap (plain .maybe f)
  | orElse => Answer.ofMaybe <$> m.orElse (plain .maybe f .unit)
  | transform => Answer.ofMaybe <$> m.transform (plain .maybe f .unit) (plain .maybe g)
  | onAbsent => Answer.ofMaybe <$> m.onAbsent (plain .ignored f .unit)
  | onPresent => Answer.ofMaybe <$> m.onPresent (plain .ignored f)
  | toAttempt => Answer.ofAttempt <$> m.toAttempt (plain .cause f .unit)

/-! ## Operations -/

/-- The operations that a caller may call. -/
inductive Operation where
  /-- Code of the caller's own that makes a value. -/
  | make (r : Recipe)
  | raise (kind : Kind) (message : Option String)
  | wrap (kind : Kind) (c : Cause)
  | adopt (kind : Kind) (error : Foreign)
  | throw (c : Cause)
  | panic (text : String)
  /-- Runs a function and stops its unwinding, but that of a panic. -/
  | catching
  /-- Runs a function and stops any unwinding, as the host can. -/
  | shielding
  | install (k : Classifier)
  /-- Installs what the configuration of a host describes. -/
  | configure (h : Host)
  | active
  | judge (c : Cause)
  | ofCause (c : Cause)
  | capture (c : Cause)
  | rethrow (c : Cause)
  | fail (c : Cause)
  | of
  /-- The attempt that a result amounts to: a value, or an error that a function turns into a
  cause. -/
  | ofResult (isOk : Bool) (r : Recipe)
  | lift (r : Recipe)
  | andThen (r : Recipe)
  | compose (r : Recipe)
  | negate (r : Recipe)
  | and (r : Recipe)
  | or (r : Recipe)
  | followedBy (r : Recipe)
  | onAttempt (r : Recipe) (call : Attempt.Call)
  | ofOption (r : Recipe)
  | when (condition : Bool)
  | whenNot (condition : Bool)
  | onMaybe (r : Recipe) (call : Maybe.Call)
  | encode (r : Recipe)
  | decode (s : Schema) (bytes : ByteArray)

namespace Operation

/-- What a decoded document amounts to. -/
def ofDecoded : Except DecodeError Value → Answer
  | .ok v => .ok v
  | .error e => .error (.text (e.message?.getD ""))

/-- What judging a cause amounts to; a captured cause is held as the failure that it makes. -/
def ofJudged : Except Captured.Refusal Captured → Answer
  | .ok c => .ok (.failure c)
  | .error refusal => .error (.cause refusal.cause)

/-- What installing amounts to. -/
def ofInstalled : Except Classifier.InstallError Unit → Answer
  | .ok () => .ok .unit
  | .error e => .error (.text e.message)

/-- What installing a configuration amounts to: the kinds of the policy, if one was installed. -/
def ofConfigured : Except Config.Error (Option Policy) → Answer
  | .ok none => .ok .none
  | .ok (some p) => .ok (.some (.list (p.kinds.map fun k => .text k.name)))
  | .error e => .error (.text e.message)

/-- What an encoded value amounts to. -/
def ofEncoded : Except EncodeError String → Answer
  | .ok text => .ok (.text text)
  | .error e => .error (.text e.message)

/-- The answer to an operation, with the functions `f` and `g`. -/
def perform (f g : Body) : Operation → Run Live Answer
  | make r => .ok <$> receive .self r
  | raise kind message => (.ok <| .cause ·) <$> Cause.raise kind message
  | wrap kind c => (.ok <| .cause ·) <$> Cause.wrap kind c
  | adopt kind error => (.ok <| .cause ·) <$> Cause.adopt kind error
  | throw c => Run.throw c
  | panic text => Run.panic text
  | catching => Answer.ofResult id <$> Run.catching (plain .self f .unit)
  | shielding => f.shielded
  | install k => ofInstalled <$> k.install
  | configure h => ofConfigured <$> Config.install h
  | active => (.ok <| .text ·.term.line) <$> Classifier.active
  | judge c => (.ok <| .bool ·) <$> c.judge
  | ofCause c => ofJudged <$> Captured.ofCause c
  | capture c => (.ok <| .failure ·) <$> Captured.capture c
  | rethrow c => c.rethrow
  | fail c => Answer.ofAttempt <$> Attempt.fail c
  | of => Answer.ofAttempt <$> Attempt.of (checked .self f .unit)
  | ofResult isOk r => do
    let v ← receive .self r
    Answer.ofAttempt <$> Attempt.ofResult (plain .cause f) (if isOk then .ok v else .error v)
  | lift r => do
    Answer.ofAttempt <$> Checked.lift (checked .self f) (← receive .self r)
  | andThen r => do
    Answer.ofResult id <$> Checked.andThen (checked .self f) (checked .self g) (← receive .self r)
  | compose r => do
    Answer.ofResult id <$> Checked.compose (checked .self f) (checked .self g) (← receive .self r)
  | negate r => do
    Answer.ofResult .bool <$> Predicate.negate (checked .bool f) (← receive .self r)
  | and r => do
    Answer.ofResult .bool <$>
      Predicate.and (checked .bool f) (checked .bool g) (← receive .self r)
  | or r => do
    Answer.ofResult .bool <$>
      Predicate.or (checked .bool f) (checked .bool g) (← receive .self r)
  | followedBy r => do
    Answer.ofResult (fun () => .unit) <$>
      Consumer.followedBy (checked .ignored f) (checked .ignored g) (← receive .self r)
  | onAttempt r call => do call.perform (← receive .attempt r) f g
  | ofOption r => do return .ofMaybe (.ofOption (← receive .option r))
  | when condition => Answer.ofMaybe <$> Maybe.when condition (plain .self f .unit)
  | whenNot condition => Answer.ofMaybe <$> Maybe.whenNot condition (plain .self f .unit)
  | onMaybe r call => do call.perform (← receive .maybe r) f g
  | encode r => do return ofEncoded (← receive .self r).encode
  | decode s bytes => ofDecoded <$> s.decodeBytes bytes

end Operation

/-! ## Programs -/

/-- A program of a caller. -/
inductive Program where
  /-- Answers with a value. -/
  | answer (r : Recipe)
  /-- Answers with a cause. -/
  | refuse (c : Cause)
  /-- Goes on as the answers held tell. -/
  | look (next : Live → Program)
  /-- Calls an operation with the functions `f` and `g`, and goes on holding its answer. -/
  | call (op : Operation) (f g next : Program)

/-- Runs a program. -/
def Program.run : Program → Body
  | answer r => .ok <$> receive .self r
  | refuse c => return .error c
  | look next => do (next (← Body.held)).run
  | call op f g next => do
    Body.hold (← op.perform f.run g.run)
    next.run

end Fallible
