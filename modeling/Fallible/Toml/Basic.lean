/-!
# TOML values

What a TOML document holds once its tables are put together.
-/

namespace Fallible

/-- A TOML value. -/
inductive Toml where
  | text (s : String)
  | integer (n : Int)
  | float (x : Float)
  /-- A number that has no value: beyond the greatest float, or not made of digits alone. -/
  | unvalued
  | bool (b : Bool)
  /-- A date, a time, or both. -/
  | moment
  | array (items : List Toml)
  /-- A table as the list of its entries, no key twice. -/
  | table (entries : List (String × Toml))
  deriving Inhabited

end Fallible
