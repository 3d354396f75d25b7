import TaggedRpc.Json.Basic
import TaggedRpc.Bytes

/-!
# Writing JSON

Two layouts: all on one line without blanks, or one element on each line,
indented by two blanks for every open container. In strings the quote, the
backslash and the controls are escaped, five of the controls by a letter;
everything else stands for itself.
-/

namespace TaggedRpc.Json

/-- A character of a string. -/
def escapeChar (c : Char) : String :=
  if c = '"' then "\\\""
  else if c = '\\' then "\\\\"
  else if c = '\n' then "\\n"
  else if c = '\r' then "\\r"
  else if c = '\t' then "\\t"
  else if c = '\x08' then "\\b"
  else if c = '\x0c' then "\\f"
  else if c.toNat < 0x20 then "\\u00" ++ Bytes.hex [UInt8.ofNat c.toNat]
  else c.toString

/-- A string in quotes. -/
def quote (s : String) : String :=
  "\"" ++ String.join (s.toList.map escapeChar) ++ "\""

/-- A number as its digits, with an exponent if it has a scale. -/
def Number.render (n : Number) : String :=
  (if n.negative then "-" else "") ++ toString n.digits ++
    (if n.scale = 0 then "" else "e" ++ toString n.scale)

/-- A key in quotes. -/
def quoteKey (key : Option String) : String :=
  quote (key.getD "")

mutual

/-- A value on one line. -/
def compact : Json → String
  | null => "null"
  | bool b => if b then "true" else "false"
  | number n => n.render
  | string s => quote s
  | brokenString => quote ""
  | array [] => "[]"
  | array (v :: vs) => "[" ++ compact v ++ compactElements vs ++ "]"
  | object [] => "\x7b\x7d"
  | object ((k, v) :: ms) => "\x7b" ++ quoteKey k ++ ":" ++ compact v ++ compactMembers ms ++ "\x7d"

/-- The elements of an array after its first. -/
def compactElements : List Json → String
  | [] => ""
  | v :: vs => "," ++ compact v ++ compactElements vs

/-- The members of an object after its first. -/
def compactMembers : List (Option String × Json) → String
  | [] => ""
  | (k, v) :: ms => "," ++ quoteKey k ++ ":" ++ compact v ++ compactMembers ms

end

/-- A new line at a level of indentation. -/
def newLine (level : Nat) : String :=
  "\n" ++ String.ofList (List.replicate (2 * level) ' ')

mutual

/-- A value over several lines, inside a number of open containers. -/
def prettyAt (level : Nat) : Json → String
  | array [] => "[]"
  | array (v :: vs) =>
    "[" ++ newLine (level + 1) ++ prettyAt (level + 1) v ++ prettyElements (level + 1) vs ++
      newLine level ++ "]"
  | object [] => "\x7b\x7d"
  | object ((k, v) :: ms) =>
    "\x7b" ++ newLine (level + 1) ++ quoteKey k ++ ": " ++ prettyAt (level + 1) v ++
      prettyMembers (level + 1) ms ++ newLine level ++ "\x7d"
  | v => compact v

/-- The elements of an array after its first, one on each line. -/
def prettyElements (level : Nat) : List Json → String
  | [] => ""
  | v :: vs => "," ++ newLine level ++ prettyAt level v ++ prettyElements level vs

/-- The members of an object after its first, one on each line. -/
def prettyMembers (level : Nat) : List (Option String × Json) → String
  | [] => ""
  | (k, v) :: ms =>
    "," ++ newLine level ++ quoteKey k ++ ": " ++ prettyAt level v ++ prettyMembers level ms

end

/-- A value over several lines. -/
def pretty (v : Json) : String :=
  prettyAt 0 v

end TaggedRpc.Json
