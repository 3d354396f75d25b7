import TaggedRpc.Bytes
import TaggedRpc.Text.Graphic

/-!
# Quoted text

A text in double quotes, on one line, with every character visible. The two
characters that would end or change the quotation are escaped, four controls
have letters, and every other character that is not graphic is written as its
code point in braces. A single quote needs no escape between double quotes.
-/

namespace TaggedRpc.Text

/-- The digits of a number in base 16, without leading zeros. -/
def hexNat (n : Nat) : String :=
  String.ofList (Nat.toDigits 16 n)

/-- A character inside double quotes. -/
def quoteChar (c : Char) : String :=
  if c = '"' then "\\\""
  else if c = '\\' then "\\\\"
  else if c = '\n' then "\\n"
  else if c = '\r' then "\\r"
  else if c = '\t' then "\\t"
  else if c = '\x00' then "\\0"
  else if Graphic.isGraphic c then c.toString
  else "\\u\x7b" ++ hexNat c.toNat ++ "\x7d"

/-- A text in double quotes. -/
def quoted (s : String) : String :=
  "\"" ++ String.join (s.toList.map quoteChar) ++ "\""

end TaggedRpc.Text
