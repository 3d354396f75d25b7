import TaggedRpc.Json.Basic

/-!
# Records in JSON

A record with named fields is an object with those keys, in any order, or an
array of the fields in their order. Keys that are no field are passed over, but a
field must not be there twice. Fields that are left out are `none`: in an array
those at its end. An array with more elements than fields is no record.

An enumeration is a string with one of its names, or an object whose only key is
the name and whose value is null.
-/

namespace TaggedRpc.Json

/-- The values of the members with a key. -/
def valuesOf (members : List (Option String × Json)) (key : String) : List Json :=
  (members.filter fun m => m.1 == some key).map (·.2)

/-- The values of the fields of a record, in the order of the fields. -/
def record? (fields : List String) : Json → Option (List (Option Json))
  | object members =>
    if members.any fun m => m.1.isNone then none
    else
      let values := fields.map (valuesOf members)
      if values.any fun vs => 1 < vs.length then none else some (values.map List.head?)
  | array elements =>
    if fields.length < elements.length then none
    else some ((List.range fields.length).map fun i => elements[i]?)
  | _ => none

/-- The text that a value is. -/
def text? : Json → Option String
  | string s => some s
  | _ => none

/-- The integer in a range that a value is. -/
def int? (low high : Int) : Json → Option Int
  | number n => n.int?.filter fun v => low ≤ v ∧ v ≤ high
  | _ => none

/-- The natural number up to a bound that a value is. -/
def nat? (bound : Nat) (v : Json) : Option Nat :=
  (v.int? 0 bound).map Int.toNat

/-- The elements that a value is, each read with `element`. -/
def list? {α : Type} (element : Json → Option α) : Json → Option (List α)
  | array vs => vs.mapM element
  | _ => none

/-- The member of an enumeration that a value names. -/
def named? {α : Type} (names : List (String × α)) : Json → Option α
  | string s => names.lookup s
  | object [(some s, null)] => names.lookup s
  | _ => none

/-- A field that may be left out, read with `read`. -/
def orDefault {α : Type} (default : α) (read : Json → Option α) : Option Json → Option α
  | none => some default
  | some v => read v

end TaggedRpc.Json
