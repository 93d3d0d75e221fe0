import Fallible.Capture

/-!
# Digests

What a value feeds to a hash function: a sequence of bytes, and of identities where a cause stands.
Equal values have equal digests, so a set may look for a value among those with its digest.
-/

namespace Fallible

/-- One piece of a digest. -/
inductive Digest.Piece where
  | byte (b : UInt8)
  /-- The identity of a condition. -/
  | identity (id : Nat)
  deriving DecidableEq

/-- What a value feeds to a hash function. -/
abbrev Digest := List Digest.Piece

/-- Types whose values can be hashed. -/
class Digestible (α : Type) where
  digest : α → Digest

namespace Digest

/-- The first `width` bytes of a number, the lowest first; a negative number stands for its
complement. -/
def word : (width : Nat) → Int → Digest
  | 0, _ => []
  | width + 1, n => .byte (UInt8.ofNat (n % 256).toNat) :: word width (n / 256)

/-- The bytes of a text and a byte that ends it. -/
def text (s : String) : Digest :=
  s.toUTF8.toList.map .byte ++ [.byte 0xff]

/-- What stands before the value of a success and of a value that is present. -/
def salt : Digest :=
  word 4 31

/-- What stands for a value that is absent. -/
def absent : Digest :=
  word 4 1

end Digest

export Digestible (digest)

/-- A cause is hashed by its identity. -/
instance : Digestible Cause :=
  ⟨fun c => [.identity c.id]⟩

instance : Digestible Captured :=
  ⟨fun c => digest c.cause⟩

end Fallible
