import TaggedRpc.Bytes
import TaggedRpc.Float.Shortest
import TaggedRpc.Toml.Basic

/-!
# Writing TOML

A document is written as a list of sections, each a header and one entry on each
line, with an empty line between two sections. An entry without a value is left
out. The first section may do without a header. A float without decimals gets
one.

A text stands in one of four pairs of quotes: double or single ones, each alone
or in threes. Between double quotes characters can be escaped, between single
ones nothing can. Line feeds stand only between threes, and up to two quotes of
the same kind do. A text goes between the first quotes, in the order double,
single, three double, three single, that it *fits*, that is, between which it
can be read without escapes. One that fits none is escaped between double
quotes, three if it holds line feeds.

A tabulator fits everywhere, but between double quotes it is escaped all the
same. Where an escape ends a run of quotes, the quotes that follow are counted
anew.
-/

namespace TaggedRpc.Toml

/-! ## Texts -/

/-- The quotes around a text. -/
inductive Quotes where
  | double
  | single
  | threeDouble
  | threeSingle
  deriving DecidableEq, Repr

namespace Quotes

/-- The quotes in the order of preference. -/
def all : List Quotes := [.double, .single, .threeDouble, .threeSingle]

/-- The mark in front of the text and behind it. -/
def mark : Quotes → String
  | .double => "\""
  | .single => "'"
  | .threeDouble => "\"\"\""
  | .threeSingle => "'''"

/-- Whether characters can be escaped. -/
def escapes : Quotes → Bool
  | .double | .threeDouble => true
  | .single | .threeSingle => false

/-- Whether the quotes come in threes, so that the text may take several lines. -/
def isThree : Quotes → Bool
  | .double | .single => false
  | .threeDouble | .threeSingle => true

end Quotes

/-- Whether a character cannot stand in a text as it is, whatever the quotes. -/
def isControl (c : Char) : Bool :=
  (c.toNat < 0x20 || c.toNat = 0x7F) && c ≠ '\t' && c ≠ '\n'

/-- Whether a character stands three times in a row. -/
def hasThree (c : Char) : List Char → Bool
  | [] => false
  | d :: rest => [c, c, c].isPrefixOf (d :: rest) || hasThree c rest

/-- Whether a text can be read between quotes without escapes. -/
def Quotes.fits (cs : List Char) (q : Quotes) : Bool :=
  !cs.any isControl &&
    match q with
    | .double => !cs.contains '\n' && !cs.contains '"' && !cs.contains '\\'
    | .single => !cs.contains '\n' && !cs.contains '\''
    | .threeDouble => !hasThree '"' cs && !cs.contains '\\'
    | .threeSingle => !hasThree '\'' cs

/-- The quotes that a text goes between. -/
def Quotes.choose (cs : List Char) : Quotes :=
  match Quotes.all.find? (Quotes.fits cs) with
  | some q => q
  | none => if cs.contains '\n' then .threeDouble else .double

/-- A number in four hexadecimal digits. -/
def fourDigits (n : Nat) : String :=
  (Bytes.hex (Bytes.ofNat 2 n)).map Char.toUpper

/-- A character between double quotes, in threes or alone. -/
def escapeChar (three : Bool) (c : Char) : String :=
  if c = '\x08' then "\\b"
  else if c = '\t' then "\\t"
  else if c = '\n' then if three then "\n" else "\\n"
  else if c = '\x0c' then "\\f"
  else if c = '\r' then "\\r"
  else if c = '"' then "\\\""
  else if c = '\\' then "\\\\"
  else if isControl c then "\\u" ++ fourDigits c.toNat
  else c.toString

/-- A text between double quotes, in threes or alone, after a run of double quotes
    that are not escaped. Such a run has at most two between threes, and none
    otherwise. -/
def escape (three : Bool) : (run : Nat) → List Char → List Char
  | _, [] => []
  | run, c :: rest =>
    if c = '"' ∧ run < (if three then 2 else 0) then c :: escape three (run + 1) rest
    else (escapeChar three c).toList ++ escape three 0 rest

/-- A text in quotes. A text with line feeds starts on a line of its own, because
    a line feed right after the mark is not read. -/
def quote (s : String) : String :=
  let cs := s.toList
  let q := Quotes.choose cs
  let start := if q.isThree && cs.contains '\n' then "\n" else ""
  let body := if q.escapes then String.ofList (escape q.isThree 0 cs) else s
  q.mark ++ start ++ body ++ q.mark

/-! ## Documents -/

/-- A value that holds no others and can be written. -/
inductive Setting where
  | text (s : String)
  | natural (n : Nat)
  | float (bits : UInt64)
  | bool (b : Bool)
  deriving DecidableEq, Repr

/-- A float with at least one decimal. -/
def renderFloat (bits : UInt64) : String :=
  let s := Float.plain64 bits
  if s.toList.all fun c => c.isDigit || c = '-' then s ++ ".0" else s

/-- The text of a setting. -/
def Setting.render : Setting → String
  | text s => quote s
  | natural n => toString n
  | float bits => renderFloat bits
  | bool b => if b then "true" else "false"

/-- A section to be written: its header, empty for none, and its entries, some of
    which may have no value. -/
structure Block where
  header : String
  entries : List (String × Option Setting)
  deriving DecidableEq, Repr

/-- The line of an entry, if it has a value. -/
def entryLine (key : String) (v : Option Setting) : String :=
  match v with
  | some v => key ++ " = " ++ v.render ++ "\n"
  | none => ""

/-- The text of a section. -/
def Block.render (b : Block) : String :=
  (if b.header = "" then "" else "[" ++ b.header ++ "]\n") ++
    String.join (b.entries.map fun (key, v) => entryLine key v)

/-- The text of a document. -/
def render (blocks : List Block) : String :=
  String.intercalate "\n" (blocks.map Block.render)

end TaggedRpc.Toml
