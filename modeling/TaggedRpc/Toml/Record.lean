import TaggedRpc.Float.Nearest
import TaggedRpc.Toml.Basic

/-!
# Records in TOML

A record with named fields is a table with those keys, or an array of the fields
in their order. Keys that are no field are passed over, as are elements past the
last field, and a field that is left out is `none`. A date or a time is a record
too, with no field set.

An enumeration is a text with one of its names, or a table whose only key is the
name and whose value is empty.
-/

namespace TaggedRpc.Toml

/-- The values of the fields of a record, in the order of the fields. -/
def record? (fields : List String) : Toml → Option (List (Option Toml))
  | table entries => some (fields.map fun f => entries.lookup f)
  | array elements => some ((List.range fields.length).map fun i => elements[i]?)
  | moment => some (fields.map fun _ => none)
  | _ => none

/-- The text that a value is. -/
def text? : Toml → Option String
  | text s => some s
  | _ => none

/-- The truth value that a value is. -/
def bool? : Toml → Option Bool
  | bool b => some b
  | _ => none

/-- The natural number up to a bound that a value is. -/
def nat? (bound : Nat) : Toml → Option Nat
  | integer v => if 0 ≤ v ∧ v ≤ bound then some v.toNat else none
  | _ => none

/-- The word of 64 bits that a value is. -/
def word64? (v : Toml) : Option UInt64 := (v.nat? 0xFFFFFFFFFFFFFFFF).map UInt64.ofNat

/-- The word of 32 bits that a value is. -/
def word32? (v : Toml) : Option UInt32 := (v.nat? 0xFFFFFFFF).map UInt32.ofNat

/-- The float that a value is, or that is nearest to it. -/
def float? : Toml → Option UInt64
  | float bits => some bits
  | integer v => some (Float.ofDecimal64 (decide (v < 0)) v.natAbs 0)
  | _ => none

/-- The member of an enumeration that a value names. -/
def named? {α : Type} (names : List (String × α)) : Toml → Option α
  | text s => names.lookup s
  | table [(s, table [])] => names.lookup s
  | table [(s, array [])] => names.lookup s
  | _ => none

/-- A field that may be left out, read with `read`. -/
def orDefault {α : Type} (default : α) (read : Toml → Option α) : Option Toml → Option α
  | none => some default
  | some v => read v

end TaggedRpc.Toml
