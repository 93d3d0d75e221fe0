/-!
# Schemas

The types that documents are read as: scalars, texts, kinds and causes, and attempts, maybes, lists
and options of these in any nesting.
-/

namespace Fallible

/-- The widths of integers. -/
inductive Width where
  | byte
  | short
  | long
  deriving DecidableEq

namespace Width

/-- The width's name. -/
def name : Width → String
  | byte => "u8"
  | short => "i32"
  | long => "i64"

/-- The least integer of the width. -/
def least : Width → Int
  | byte => 0
  | short => -2147483648
  | long => -9223372036854775808

/-- The greatest integer of the width. -/
def greatest : Width → Int
  | byte => 255
  | short => 2147483647
  | long => 9223372036854775807

/-- Whether an integer is of the width. -/
def contains (w : Width) (n : Int) : Bool :=
  w.least ≤ n && n ≤ w.greatest

end Width

/-- A type that documents are read as. -/
inductive Schema where
  | unit
  | bool
  | integer (width : Width)
  | text
  /-- A kind by its name. -/
  | kind
  | cause
  | attempt (of : Schema)
  | maybe (of : Schema)
  | list (of : Schema)
  | option (of : Schema)
  deriving DecidableEq, Inhabited

end Fallible
