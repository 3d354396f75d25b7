/-!
# TOML values

A value as a settings file gives it. The integers are those of 64 bits, floats
are words of 64 bits, and the entries of a table stand in the order in which the
file gives them, every key once. Dates and times are told apart from the other
values, and that is all: no setting is one.
-/

namespace TaggedRpc

/-- A TOML value. -/
inductive Toml where
  | text (s : String)
  | integer (v : Int)
  | float (bits : UInt64)
  | bool (b : Bool)
  /-- A date, a time, or both. -/
  | moment
  | array (elements : List Toml)
  | table (entries : List (String × Toml))
  deriving Repr, Inhabited

end TaggedRpc
