/-!
# Symbols

A document comes as bytes, and most bytes spell characters. A byte that does not is kept as it is: a
string may hold it where nobody asks what the string says.

## Main definitions

* `Symbol`: a character, or a byte that spells none
* `Symbol.ofText`, `Symbol.ofBytes`: the symbols of a text and of bytes
-/

namespace Fallible.Json

/-- A character, or a byte that spells none. -/
abbrev Symbol := Option Char

namespace Symbol

/-- The symbols of a text. -/
def ofText (s : String) : List Symbol :=
  s.toList.map some

/-- The symbols of the bytes from a place on. -/
def ofBytesFrom (bytes : ByteArray) (place : Nat) : List Symbol :=
  if place < bytes.size then
    match bytes.utf8DecodeChar? place with
    | some c => some c :: ofBytesFrom bytes (place + c.utf8Size)
    | none => none :: ofBytesFrom bytes (place + 1)
  else []
termination_by bytes.size - place
decreasing_by
  · have := c.utf8Size_pos
    omega
  · omega

/-- The symbols of bytes. -/
def ofBytes (bytes : ByteArray) : List Symbol :=
  ofBytesFrom bytes 0

end Symbol

end Fallible.Json
