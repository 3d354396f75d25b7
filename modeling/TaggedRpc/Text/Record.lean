import TaggedRpc.Text.Quoted

/-!
# Values on one line

How the parts of a client are shown in a log: a record as its name and its fields
in braces, a value that may be absent with a word around it, and a map of texts as
its entries in braces. Texts inside are quoted.
-/

namespace TaggedRpc.Text

/-- A record with the texts of its fields. -/
def record (name : String) (fields : List (String × String)) : String :=
  name ++ " \x7b " ++ ", ".intercalate (fields.map fun (key, value) => key ++ ": " ++ value) ++
    " \x7d"

/-- A value that may be absent, given its text. -/
def optional : Option String → String
  | some value => "Some(" ++ value ++ ")"
  | none => "None"

/-- A map of texts, given its entries in order. -/
def dictionary (entries : List (String × String)) : String :=
  "\x7b" ++ ", ".intercalate (entries.map fun (key, value) => quoted key ++ ": " ++ quoted value) ++
    "\x7d"

end TaggedRpc.Text
