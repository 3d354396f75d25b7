import TaggedRpc.Json.Basic
import TaggedRpc.Bytes

/-!
# The tokens of a JSON text

A text is cut into punctuation, words, numbers and strings. Between them stand
blanks: the space, the tabulator and the two line ends. Every token takes at
least one character.
-/

namespace TaggedRpc.Json

/-- A token of a JSON text. A string is `none` if it escapes half a pair of
    surrogates. -/
inductive Token where
  | leftBrace | rightBrace | leftBracket | rightBracket | comma | colon
  | null
  | bool (b : Bool)
  | number (n : Number)
  | string (s : Option String)
  deriving DecidableEq, Repr

namespace Token

/-! ## Strings -/

/-- A 16-bit unit of an escaped text. -/
def unit? : List Char → Option Nat
  | [a, b, c, d] => do
    let a ← Bytes.hexValue? a
    let b ← Bytes.hexValue? b
    let c ← Bytes.hexValue? c
    let d ← Bytes.hexValue? d
    pure (((a * 16 + b) * 16 + c) * 16 + d)
  | _ => none

/-- What a one-letter escape stands for. -/
def escaped? : Char → Option Char
  | '"' => some '"'
  | '\\' => some '\\'
  | '/' => some '/'
  | 'b' => some '\x08'
  | 'f' => some '\x0c'
  | 'n' => some '\n'
  | 'r' => some '\r'
  | 't' => some '\t'
  | _ => none

/-- A piece of a string: a character, or an escaped 16-bit unit. -/
inductive Piece where
  | char (c : Char)
  | unit (u : Nat)
  deriving DecidableEq, Repr

/-- The pieces of a string up to its closing quote, and what follows. A control
    character must be escaped. -/
def pieces : List Char → List Piece → Option (List Piece × List Char)
  | [], _ => none
  | '"' :: rest, acc => some (acc.reverse, rest)
  | '\\' :: 'u' :: a :: b :: c :: d :: rest, acc => do
    let u ← unit? [a, b, c, d]
    pieces rest (.unit u :: acc)
  | '\\' :: e :: rest, acc => do
    let c ← escaped? e
    pieces rest (.char c :: acc)
  | c :: rest, acc =>
    if c.toNat < 0x20 ∨ c = '\\' then none else pieces rest (.char c :: acc)

/-- The text of pieces. A high surrogate needs a low one right behind it, and a
    low one needs a high one in front. -/
def text? : List Piece → Option (List Char)
  | [] => some []
  | .char c :: rest => (text? rest).map (c :: ·)
  | .unit h :: .unit l :: rest =>
    if 0xD800 ≤ h ∧ h < 0xDC00 then
      if 0xDC00 ≤ l ∧ l < 0xE000 then
        (text? rest).map (Char.ofNat (0x10000 + (h - 0xD800) * 0x400 + (l - 0xDC00)) :: ·)
      else none
    else if 0xDC00 ≤ h ∧ h < 0xE000 then none
    else (text? (.unit l :: rest)).map (Char.ofNat h :: ·)
  | .unit u :: rest =>
    if 0xD800 ≤ u ∧ u < 0xE000 then none else (text? rest).map (Char.ofNat u :: ·)

/-! ## Numbers -/

/-- The number that digits spell. -/
def ofDigits (ds : List Char) : Nat :=
  ds.foldl (fun n c => 10 * n + (c.toNat - 48)) 0

/-- An exponent, if there is one: its value, and what follows. -/
def exponent? : List Char → Option (Option Int × List Char)
  | c :: rest =>
    if c = 'e' ∨ c = 'E' then
      let (negative, rest) := match rest with
        | '-' :: r => (true, r)
        | '+' :: r => (false, r)
        | r => (false, r)
      let ds := rest.takeWhile Char.isDigit
      if ds.isEmpty then none
      else
        let v : Int := ofDigits ds
        some (some (if negative then -v else v), rest.dropWhile Char.isDigit)
    else some (none, c :: rest)
  | [] => some (none, [])

/-- A number without its sign, and what follows. A whole part other than zero
    does not start with a zero. -/
def number? (negative : Bool) (cs : List Char) : Option (Number × List Char) := do
  let whole := cs.takeWhile Char.isDigit
  let rest := cs.dropWhile Char.isDigit
  if whole.isEmpty then none
  else if whole.head? = some '0' ∧ whole.length ≠ 1 then none
  else
    let (fraction, rest) ← match rest with
      | '.' :: r =>
        let ds := r.takeWhile Char.isDigit
        if ds.isEmpty then none else some (ds, r.dropWhile Char.isDigit)
      | r => some ([], r)
    let (exponent, rest) ← exponent? rest
    pure ({ negative, digits := ofDigits (whole ++ fraction)
            scale := exponent.getD 0 - fraction.length
            whole := fraction.isEmpty && exponent.isNone }, rest)

/-! ## Texts -/

/-- Whether a character stands between tokens. -/
def isBlank (c : Char) : Bool :=
  c = ' ' || c = '\t' || c = '\n' || c = '\r'

/-- The first token of a text that does not start with a blank, and what follows. -/
def first? : List Char → Option (Token × List Char)
  | '\x7b' :: rest => some (.leftBrace, rest)
  | '\x7d' :: rest => some (.rightBrace, rest)
  | '[' :: rest => some (.leftBracket, rest)
  | ']' :: rest => some (.rightBracket, rest)
  | ',' :: rest => some (.comma, rest)
  | ':' :: rest => some (.colon, rest)
  | 'n' :: 'u' :: 'l' :: 'l' :: rest => some (.null, rest)
  | 't' :: 'r' :: 'u' :: 'e' :: rest => some (.bool true, rest)
  | 'f' :: 'a' :: 'l' :: 's' :: 'e' :: rest => some (.bool false, rest)
  | '"' :: rest => do
    let (ps, rest) ← pieces rest []
    pure (.string ((text? ps).map String.ofList), rest)
  | '-' :: rest => do
    let (n, rest) ← number? true rest
    pure (.number n, rest)
  | cs => do
    let (n, rest) ← number? false cs
    pure (.number n, rest)

/-- The tokens of a text. Every turn consumes a character, so one turn for each
    and one more see the end. -/
def scan : (turns : Nat) → List Char → Option (List Token)
  | 0, _ => none
  | turns + 1, cs =>
    match cs.dropWhile isBlank with
    | [] => some []
    | cs => do
      let (t, rest) ← first? cs
      (scan turns rest).map (t :: ·)

/-- The tokens of a text. -/
def ofText (s : String) : Option (List Token) :=
  let cs := s.toList
  scan (cs.length + 1) cs

end Token

end TaggedRpc.Json
