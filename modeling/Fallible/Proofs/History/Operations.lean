import Fallible.Proofs.Codec.Record
import Fallible.Proofs.History.Basic
import Fallible.Proofs.Program.Basic

/-!
# The history of each operation

Which steps an operation takes is told by its own arguments and by the histories of the functions
that it is given. A combinator takes the steps of the function that it runs, and it judges the cause
that this function answers with if it captures causes. Where it has nothing to do it takes no steps.
Reading a document judges the cause of every failure that it comes to.

## Main definitions

* `Code`, `Code.given`, `Code.captured`: functions with their histories
* `Schema.history`: the failures that are come to in reading a document
* `Attempt.Call.history`, `Maybe.Call.history`, `Operation.history`: the operations
* `Program.history`: programs
-/

namespace Fallible

open Body (checked plain receive)
open History (silent judging capturing after installing)

/-! ## Functions that a caller passes -/

/-- Caller code and its history. -/
structure Code where
  run : Body
  history : History Live

namespace Code

/-- The history of caller code that is given an argument. -/
def given (code : Code) (v : Value) : History Live := fun s =>
  code.history { s with caller := .ok v :: s.caller }

/-- Caller code is run, and a cause that it answers with is judged. -/
def captured {α : Type} [Carrier α] (view : View α) (code : Code) (v : Value) : History Live :=
  (code.given v).andThen (checked view code.run v) capturing

end Code

/-! ## Documents -/

section Documents

variable {σ : Type}

/-- Items are read one after the other, up to the first that is refused. -/
def Decode.itemsHistory (read : Json → Run σ (Except DecodeError Value)) (h : Json → History σ) :
    List Json → History σ
  | [] => silent
  | j :: js => (h j).andThen (read j) fun
    | .error _ => silent
    | .ok _ => itemsHistory read h js

/-- A failure is judged if its cause can be read. -/
def Decode.failureHistory (room : Nat) (j : Json) : History σ :=
  match Record.ofJson room j with
  | .error _ => silent
  | .ok record => after record.raise judging

/-- The failures that are come to in reading a tree as a schema. -/
def Schema.history (room : Nat) : Schema → Json → History σ
  | .option _, .null => silent
  | .option s, j => s.history room j
  | .list s, .array js =>
    match room with
    | 0 => silent
    | room + 1 => Decode.itemsHistory (s.ofJson room) (s.history room) js
  | .attempt s, j =>
    match Variant.ofJson room ["Success", "Failure"] j with
    | .ok (.holding name value room _) =>
      if name == "Success" then s.history room value else Decode.failureHistory room value
    | _ => silent
  | .maybe s, j =>
    match Variant.ofJson room ["Some", "None"] j with
    | .ok (.holding name value room _) => if name == "Some" then s.history room value else silent
    | _ => silent
  | _, _ => silent

end Documents

/-! ## Operations -/

/-- The history of a call on an attempt, with the functions `f` and `g`. -/
def Attempt.Call.history (f g : Code) : Attempt Value → Attempt.Call → History Live
  | .success v, forEach | .success v, onSuccess => f.given v
  | .success v, fold => g.given v
  | .success v, map => f.captured .self v
  | .success v, flatMap => f.captured .attempt v
  | .success v, transform => g.captured .attempt v
  | .success v, filter =>
    (f.given v).andThen (checked .bool f.run v) fun
      | .ok true => silent
      | .ok false => after (Attempt.unsatisfied v) judging
      | .error c => judging c
  | .success v, filterOr =>
    (f.given v).andThen (checked .bool f.run v) fun
      | .ok true => silent
      | .ok false => (g.given v).andThen (plain .cause g.run v) judging
      | .error c => judging c
  | .success _, failed => after (Cause.unsupported "Success.failed()") judging
  | .failure c, getOrElseThrow | .failure c, toSum | .failure c, fold | .failure c, onFailure =>
    f.given (.cause c.cause)
  | .failure _, getOrElseGet => f.given .unit
  | .failure c, mapFailure =>
    (f.given (.cause c.cause)).andThen (checked .cause f.run (.cause c.cause)) fun
      | .ok mapped => judging mapped
      | .error mapped => judging mapped
  | .failure c, recover kind =>
    if c.cause.isA kind then f.captured .self (.cause c.cause) else silent
  | .failure c, recoverWith kind =>
    if c.cause.isA kind then f.captured .attempt (.cause c.cause) else silent
  | .failure _, orElse => f.captured .attempt .unit
  | .failure c, transform => f.captured .attempt (.cause c.cause)
  | _, _ => silent

/-- The history of a call on a maybe, with the functions `f` and `g`. -/
def Maybe.Call.history (f g : Code) : Maybe Value → Maybe.Call → History Live
  | .present v, filter | .present v, map | .present v, flatMap | .present v, onPresent => f.given v
  | .present v, fold | .present v, transform => g.given v
  | .absent, getOrElseGet | .absent, getOrElseThrow | .absent, toSum | .absent, fold
  | .absent, orElse | .absent, transform | .absent, onAbsent => f.given .unit
  | .absent, toAttempt => (f.given .unit).andThen (plain .cause f.run .unit) judging
  | _, _ => silent

/-- The history of an operation, with the functions `f` and `g`. -/
def Operation.history (f g : Code) : Operation → History Live
  | make _ | raise _ _ | wrap _ _ | adopt _ _ | throw _ | panic _ | rethrow _ | ofOption _
  | encode _ => silent
  | catching => f.given .unit
  | shielding => f.history
  | install k => installing k
  | configure h =>
    after (Config.load h) fun
      | .ok (some config) => installing config.policy.classifier
      | _ => silent
  | active => fun _ => [.asked]
  | judge c | ofCause c | capture c | fail c => judging c
  | of => f.captured .self .unit
  | ofResult isOk r =>
    after (receive .self r) fun v =>
      if isOk then silent else (f.given v).andThen (plain .cause f.run v) judging
  | lift r => after (receive .self r) (f.captured .self)
  | andThen r =>
    after (receive .self r) fun v =>
      (f.given v).andThen (checked .self f.run v) fun
        | .ok w => g.given w
        | .error _ => silent
  | compose r =>
    after (receive .self r) fun v =>
      (g.given v).andThen (checked .self g.run v) fun
        | .ok w => f.given w
        | .error _ => silent
  | negate r => after (receive .self r) f.given
  | and r =>
    after (receive .self r) fun v =>
      (f.given v).andThen (checked .bool f.run v) fun
        | .ok true => g.given v
        | _ => silent
  | or r =>
    after (receive .self r) fun v =>
      (f.given v).andThen (checked .bool f.run v) fun
        | .ok false => g.given v
        | _ => silent
  | followedBy r =>
    after (receive .self r) fun v =>
      (f.given v).andThen (checked .ignored f.run v) fun
        | .ok () => g.given v
        | .error _ => silent
  | onAttempt r call => after (receive .attempt r) fun t => call.history f g t
  | when condition => if condition then f.given .unit else silent
  | whenNot condition => if condition then silent else f.given .unit
  | onMaybe r call => after (receive .maybe r) fun m => call.history f g m
  | decode s bytes => s.history Schema.room (Json.read (Json.Symbol.ofBytes bytes)).tree

/-- The history of a program. -/
def Program.history : Program → History Live
  | answer _ | refuse _ => silent
  | look next => fun s => (next s.caller).history s
  | call op f g next =>
    (op.history ⟨f.run, f.history⟩ ⟨g.run, g.history⟩).andThen (op.perform f.run g.run)
      fun a s => next.history { s with caller := a :: s.caller }

end Fallible
