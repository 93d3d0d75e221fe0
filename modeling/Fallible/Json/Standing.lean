import Fallible.Json.Reader

/-!
# How symbols stand as a document

Symbols are a document as a whole if every string names a text and every number has a value, and if
groups are nested no deeper than there is room. Otherwise the first thing in order that stands in
the way tells which of the two it is: a group nested too deep, or something broken. Beyond it
nothing is known.

## Main definitions

* `Standing`: the three cases
* `Json.standing`: how a tree stands
* `Json.Reading.standing`: how all that was read stands
-/

namespace Fallible.Json

/-- How symbols stand as a document. -/
inductive Standing where
  | whole
  /-- A group is nested too deep, and nothing before it is wrong. -/
  | tooDeep
  | broken
  deriving DecidableEq

/-- How two things stand of which the second comes after the first. -/
def Standing.andThen : Standing → Standing → Standing
  | whole, next => next
  | tooDeep, _ => tooDeep
  | broken, _ => broken

/-- What stands as a whole if it is `sound`, and else as broken. -/
def Standing.ofBool (sound : Bool) : Standing :=
  if sound then whole else broken

mutual

/-- How a tree stands, with `room` for so many groups within each other. -/
def standing (room : Nat) : Json → Standing
  | null | bool _ | integer _ => .whole
  | decimal d => .ofBool d.scaled?.isSome
  | string s => .ofBool s.isSome
  | array items => if room = 0 then .tooDeep else itemsStanding (room - 1) items
  | object members => if room = 0 then .tooDeep else membersStanding (room - 1) members
  | cut => .broken

/-- How items stand, one after the other. -/
def itemsStanding (room : Nat) : List Json → Standing
  | [] => .whole
  | item :: items => (standing room item).andThen (itemsStanding room items)

/-- How members stand, one after the other, each with its key first. -/
def membersStanding (room : Nat) : List (Option String × Json) → Standing
  | [] => .whole
  | (key, value) :: members =>
    ((Standing.ofBool key.isSome).andThen (standing room value)).andThen
      (membersStanding room members)

end

/-- How all that was read stands: what follows a whole tree breaks it. -/
def Reading.standing (r : Reading) (room : Nat) : Standing :=
  (r.tree.standing room).andThen (.ofBool r.isWhole)

end Fallible.Json
