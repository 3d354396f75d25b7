/-!
# JSON values

A value as its text gives it: the members of an object in their order, repeated
keys included, and numbers as their digits, so that a reader of the value can
tell `1` from `1.0` and judge the range of its own type.

A text may escape one half of a pair of surrogates without the other. Such a
text is no string, but a value that is passed over may hold it; it is kept
apart as `brokenString`, and a key like that is `none`.
-/

namespace TaggedRpc

/-- A number as it is written: `digits * 10 ^ scale`, or its negative. -/
structure Json.Number where
  /-- Whether a minus sign is in front. -/
  negative : Bool
  /-- The digits before and after the point, as one number. -/
  digits : Nat
  /-- The power of ten of the last digit. -/
  scale : Int
  /-- Whether it is written without a point and without an exponent. -/
  whole : Bool
  deriving DecidableEq, Repr, Inhabited

/-- A JSON value. -/
inductive Json where
  | null
  | bool (b : Bool)
  | number (n : Json.Number)
  | string (s : String)
  | brokenString
  | array (elements : List Json)
  | object (members : List (Option String × Json))
  deriving Repr, Inhabited

namespace Json

/-- An integer as a value. -/
def int (v : Int) : Json :=
  number { negative := decide (v < 0), digits := v.natAbs, scale := 0, whole := true }

/-- A natural number as a value. -/
def nat (n : Nat) : Json := int n

/-- An object with the given members. -/
def ofMembers (members : List (String × Json)) : Json :=
  object (members.map fun (k, v) => (some k, v))

/-- The integer that a number is written as. A minus sign before a zero makes
    it a float, which has such a zero. -/
def Number.int? (n : Number) : Option Int :=
  if n.whole ∧ ¬(n.negative ∧ n.digits = 0) then
    some (if n.negative then -(n.digits : Int) else n.digits)
  else none

/-- The value of the first member with a given key. -/
def get? (key : String) : Json → Option Json
  | object members => (members.find? fun m => m.1 == some key).map (·.2)
  | _ => none

end Json

end TaggedRpc
