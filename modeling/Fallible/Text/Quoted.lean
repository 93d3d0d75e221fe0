import Fallible.Text.Property

/-!
# Texts in quotes

A text shown to a programmer stands between double quotes. The quote and the backslash are escaped,
and so is every character that would not show: five controls by a letter or a zero, the rest by
their code point in hexadecimal.
-/

namespace Fallible.Quoted

/-- Whether a character shows by itself. Between the space and the tilde all do. -/
def isPlain (c : Char) : Bool :=
  if c.toNat < 0x7f then 0x20 ≤ c.toNat
  else !(Text.extending.covers c.toNat || Text.unprintable.covers c.toNat)

/-- One character as it is written between the quotes. -/
def escape (c : Char) : String :=
  match c with
  | '\x00' => "\\0"
  | '\t' => "\\t"
  | '\r' => "\\r"
  | '\n' => "\\n"
  | '\\' => "\\\\"
  | '"' => "\\\""
  | _ =>
    if isPlain c then c.toString
    else "\\u\x7b" ++ String.ofList (Nat.toDigits 16 c.toNat) ++ "\x7d"

/-- A text between quotes. -/
def render (text : String) : String :=
  "\"" ++ String.join (text.toList.map escape) ++ "\""

end Fallible.Quoted
