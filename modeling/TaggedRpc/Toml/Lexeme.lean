import TaggedRpc.Bytes
import TaggedRpc.Float.Nearest
import TaggedRpc.Text.Number
import TaggedRpc.Toml.Basic

/-!
# The lexemes of TOML

Blanks, comments, line ends, keys, strings, numbers and dates. Each reader takes
the text from where it stands, and gives what it has read and what follows, or
nothing if the text does not start with its lexeme.

* `toLineEnd?`: blanks and a comment, up to and with the end of the line;
* `key?`: a key of one or more parts with points between them;
* `string?`: a text in one of the four kinds of quotes;
* `number?`, `moment?`: a number; a date, a time, or both.
-/

namespace TaggedRpc.Toml

/-! ## Blanks and comments -/

/-- Whether a character is a blank. -/
def isBlank (c : Char) : Bool := c = ' ' || c = '\t'

/-- Whether a character can stand in a comment: all but the controls, of which
    only the tabulator can. -/
def isPlain (c : Char) : Bool := c = '\t' || (0x20 ≤ c.toNat && c.toNat ≠ 0x7F)

/-- The text after its blanks. -/
def skipBlanks (cs : List Char) : List Char := cs.dropWhile isBlank

/-- The text after its comment, if it starts with one. -/
def skipComment : List Char → List Char
  | '#' :: rest => rest.dropWhile isPlain
  | cs => cs

/-- The text after a line end. -/
def newLine? : List Char → Option (List Char)
  | '\n' :: rest => some rest
  | '\r' :: '\n' :: rest => some rest
  | _ => none

/-- The text after the rest of a line on which only blanks and a comment stand.
    The last line needs no end. -/
def toLineEnd? (cs : List Char) : Option (List Char) :=
  match skipComment (skipBlanks cs) with
  | [] => some []
  | cs => newLine? cs

/-- The text after blanks, comments and line ends. Every turn takes a line end,
    so as many turns as there are characters see the end. -/
def skipLines : (turns : Nat) → List Char → List Char
  | 0, cs => cs
  | turns + 1, cs =>
    let next := skipBlanks cs
    match newLine? (skipComment next) with
    | some rest => skipLines turns rest
    | none => next

/-! ## Strings -/

/-- What a one-letter escape stands for. -/
def escaped? : Char → Option Char
  | '"' => some '"'
  | '\\' => some '\\'
  | 'b' => some '\x08'
  | 'f' => some '\x0c'
  | 'n' => some '\n'
  | 'r' => some '\r'
  | 't' => some '\t'
  | _ => none

/-- The character with a code point in hexadecimal digits. Surrogates and numbers
    past the last code point are no characters. -/
def codePoint? (digits : List Char) : Option Char := do
  let values ← digits.mapM Bytes.hexValue?
  let n := values.foldl (fun n d => 16 * n + d) 0
  if n.isValidChar then some (Char.ofNat n) else none

/-- A character of a quoted text, if it starts with one: a plain character, or an
    escape. -/
def quotedChar? : List Char → Option (Char × List Char)
  | '\\' :: 'u' :: a :: b :: c :: d :: rest => (codePoint? [a, b, c, d]).map (·, rest)
  | '\\' :: 'U' :: a :: b :: c :: d :: e :: f :: g :: h :: rest =>
    (codePoint? [a, b, c, d, e, f, g, h]).map (·, rest)
  | '\\' :: e :: rest => (escaped? e).map (·, rest)
  | c :: rest => if isPlain c then some (c, rest) else none
  | [] => none

/-- The rest of a text on one line up to its closing quote, with what has been read
    in reverse. Only double quotes allow escapes. Every turn takes a character. -/
def lineText (quote : Char) : (turns : Nat) → List Char → List Char → Option (String × List Char)
  | 0, _, _ => none
  | turns + 1, acc, cs =>
    if cs.head? = some quote then some (String.ofList acc.reverse, cs.tail)
    else if quote = '"' then do
      let (c, rest) ← quotedChar? cs
      lineText quote turns (c :: acc) rest
    else
      match cs with
      | c :: rest => if isPlain c then lineText quote turns (c :: acc) rest else none
      | [] => none

/-- How many quotes a text starts with, up to five: three close a text over
    several lines, and up to two before them belong to it. -/
def quoteRun (quote : Char) (cs : List Char) : Nat :=
  ((cs.take 5).takeWhile (· = quote)).length

/-- The text after blanks and line ends, where a backslash at the end of a line
    has joined it with the next one. -/
def skipJoint : List Char → List Char
  | '\r' :: '\n' :: rest => skipJoint rest
  | c :: rest => if isBlank c || c = '\n' then skipJoint rest else c :: rest
  | [] => []

/-- Whether the line ends after blanks. -/
def endsLine (cs : List Char) : Bool := (newLine? (skipBlanks cs)).isSome

/-- The rest of a text over several lines, with what has been read in reverse.
    Line ends are read as line feeds. Every turn takes a character. -/
def linesText (quote : Char) : (turns : Nat) → List Char → List Char → Option (String × List Char)
  | 0, _, _ => none
  | turns + 1, acc, cs =>
    let run := quoteRun quote cs
    if 3 ≤ run then
      some (String.ofList (List.replicate (run - 3) quote ++ acc).reverse, cs.drop run)
    else
      match newLine? cs with
      | some rest => linesText quote turns ('\n' :: acc) rest
      | none =>
        if quote = '"' then
          if cs.head? = some '\\' ∧ endsLine cs.tail then
            linesText quote turns acc (skipJoint cs.tail)
          else do
            let (c, rest) ← quotedChar? cs
            linesText quote turns (c :: acc) rest
        else
          match cs with
          | c :: rest => if isPlain c then linesText quote turns (c :: acc) rest else none
          | [] => none

/-- A text in quotes on one line. -/
def lineString? : List Char → Option (String × List Char)
  | c :: rest => if c = '"' ∨ c = '\'' then lineText c (rest.length + 1) [] rest else none
  | [] => none

/-- A text in quotes. A line end right after three opening quotes does not count. -/
def string? (cs : List Char) : Option (String × List Char) :=
  match cs with
  | q :: q' :: q'' :: rest =>
    if (q = '"' ∨ q = '\'') ∧ q' = q ∧ q'' = q then
      linesText q (rest.length + 1) [] ((newLine? rest).getD rest)
    else lineString? cs
  | _ => lineString? cs

/-! ## Keys -/

/-- Whether a character can stand in a key without quotes. -/
def isKeyChar (c : Char) : Bool := c.isAlphanum || c = '_' || c = '-'

/-- One part of a key. -/
def keyPart? (cs : List Char) : Option (String × List Char) :=
  match cs with
  | [] => none
  | c :: _ =>
    if c = '"' ∨ c = '\'' then lineString? cs
    else
      let bare := cs.takeWhile isKeyChar
      if bare.isEmpty then none else some (String.ofList bare, cs.dropWhile isKeyChar)

/-- The most parts of a key, and the most containers inside one another. -/
def depthLimit : Nat := 79

/-- A key, with blanks around its parts. -/
def keyParts? : (parts : Nat) → List Char → Option (List String × List Char)
  | 0, _ => none
  | parts + 1, cs => do
    let (part, rest) ← keyPart? (skipBlanks cs)
    match skipBlanks rest with
    | '.' :: rest => do
      let (others, rest) ← keyParts? parts rest
      pure (part :: others, rest)
    | rest => pure ([part], rest)

/-- A key, with blanks around its parts. -/
def key? (cs : List Char) : Option (List String × List Char) := keyParts? depthLimit cs

/-! ## Numbers -/

/-- Digits of a kind with single underscores between them, without these. -/
def digits? (isDigit : Char → Bool) : List Char → Option (List Char × List Char)
  | [] => none
  | c :: cs => if isDigit c then go [c] cs else none
where
  /-- The digits after the first, with those so far in reverse. -/
  go (acc : List Char) : List Char → Option (List Char × List Char)
    | '_' :: c :: cs => if isDigit c then go (c :: acc) cs else none
    | c :: cs =>
      if c = '_' then none
      else if isDigit c then go (c :: acc) cs
      else some (acc.reverse, c :: cs)
    | [] => some (acc.reverse, [])

/-- The number that digits spell in a base. -/
def spelt (base : Nat) (digits : List Char) : Nat :=
  digits.foldl (fun n c => base * n + (Bytes.hexValue? c).getD 0) 0

/-- An integer of 64 bits. -/
def integer? (negative : Bool) (n : Nat) : Option Toml :=
  let v : Int := if negative then -(n : Int) else n
  if -0x8000000000000000 ≤ v ∧ v ≤ 0x7FFFFFFFFFFFFFFF then some (.integer v) else none

/-- Whether a character is a digit of a base. -/
def isDigitOf (base : Nat) (c : Char) : Bool :=
  match Bytes.hexValue? c with
  | some d => d < base
  | none => false

/-- An integer in a base, after the letter of the base. -/
def based? (base : Nat) (cs : List Char) : Option (Toml × List Char) := do
  let (ds, rest) ← digits? (isDigitOf base) cs
  pure (← integer? false (spelt base ds), rest)

/-- The whole part of a number: a zero, or digits that start with another one. -/
def whole? : List Char → Option (List Char × List Char)
  | '0' :: rest => some (['0'], rest)
  | cs => digits? Char.isDigit cs

/-- The exponent of a float, if there is one. -/
def exponent? : List Char → Option (Option Int × List Char)
  | c :: rest =>
    if c = 'e' ∨ c = 'E' then
      let (negative, rest) := match rest with
        | '-' :: rest => (true, rest)
        | '+' :: rest => (false, rest)
        | rest => (false, rest)
      (digits? Char.isDigit rest).map fun (ds, rest) =>
        (some (if negative then -(spelt 10 ds : Int) else spelt 10 ds), rest)
    else some (none, c :: rest)
  | [] => some (none, [])

/-- The digits after the point of a float, if there is one. -/
def fraction? : List Char → Option (Option (List Char) × List Char)
  | '.' :: rest => (digits? Char.isDigit rest).map fun (ds, rest) => (some ds, rest)
  | cs => some (none, cs)

/-- A decimal number without its sign. It is a float if it has a point or an
    exponent; a float too great for 64 bits is none, unless it is negative. -/
def decimal? (negative : Bool) (cs : List Char) : Option (Toml × List Char) := do
  let (whole, rest) ← whole? cs
  let (fraction, rest) ← fraction? rest
  let (exponent, rest) ← exponent? rest
  if fraction.isNone ∧ exponent.isNone then
    pure (← integer? negative (spelt 10 whole), rest)
  else
    let digits := whole ++ fraction.getD []
    let scale := exponent.getD 0 - (fraction.getD []).length
    let bits := Float.ofDecimal64 negative (spelt 10 digits) scale
    if bits.toNat = Float.double.infinity then none else pure (.float bits, rest)

/-- A number without its sign. -/
def unsigned? (negative : Bool) : List Char → Option (Toml × List Char)
  | 'i' :: 'n' :: 'f' :: rest =>
    some (.float (UInt64.ofNat (Float.double.infinity + if negative then 2 ^ 63 else 0)), rest)
  | 'n' :: 'a' :: 'n' :: rest =>
    some (.float (UInt64.ofNat (Float.double.infinity + 2 ^ 51 + if negative then 2 ^ 63 else 0)),
      rest)
  | cs => decimal? negative cs

/-- A number. A sign excludes the bases other than ten. -/
def number? : List Char → Option (Toml × List Char)
  | '+' :: rest => unsigned? false rest
  | '-' :: rest => unsigned? true rest
  | '0' :: 'x' :: rest => based? 16 rest
  | '0' :: 'o' :: rest => based? 8 rest
  | '0' :: 'b' :: rest => based? 2 rest
  | cs => unsigned? false cs

/-! ## Dates and times -/

/-- A number of two digits in a range. -/
def two? (low high : Nat) : List Char → Option (Nat × List Char)
  | a :: b :: rest => do
    let n ← Text.digits? [a, b]
    if low ≤ n ∧ n ≤ high then some (n, rest) else none
  | _ => none

/-- The text after a given character. -/
def after? (c : Char) : List Char → Option (List Char)
  | d :: rest => if d = c then some rest else none
  | [] => none

/-- The number of days of a month. -/
def daysIn (year month : Nat) : Nat :=
  if month = 2 then
    if year % 4 = 0 ∧ (year % 100 ≠ 0 ∨ year % 400 = 0) then 29 else 28
  else if month = 4 ∨ month = 6 ∨ month = 9 ∨ month = 11 then 30
  else 31

/-- The text after the month and the day of a date. -/
def skipDay? (year : Nat) (cs : List Char) : Option (List Char) := do
  let (month, rest) ← two? 1 12 cs
  let rest ← after? '-' rest
  let (_, rest) ← two? 1 (daysIn year month) rest
  pure rest

/-- The text after the minutes, the seconds and the fraction of a time. -/
def skipMinutes? (cs : List Char) : Option (List Char) := do
  let (_, rest) ← two? 0 59 cs
  let rest ← after? ':' rest
  let (_, rest) ← two? 0 60 rest
  match rest with
  | '.' :: c :: rest => if c.isDigit then some (rest.dropWhile Char.isDigit) else none
  | '.' :: [] => none
  | rest => some rest

/-- The text after an hour and a colon, if there are these. -/
def skipHour? : List Char → Option (Option (List Char))
  | a :: b :: ':' :: rest =>
    if a.isDigit && b.isDigit then (two? 0 23 [a, b]).map fun _ => some rest else some none
  | _ => some none

/-- The text after the distance to universal time, if it is given. -/
def skipOffset? : List Char → Option (List Char)
  | 'Z' :: rest => some rest
  | 'z' :: rest => some rest
  | c :: rest =>
    if c = '+' ∨ c = '-' then do
      let (_, rest) ← two? 0 23 rest
      let rest ← after? ':' rest
      let (_, rest) ← two? 0 59 rest
      pure rest
    else some (c :: rest)
  | [] => some []

/-- The text after the time of a day, if there is one behind a date. -/
def skipTimeOfDay? (cs : List Char) : Option (List Char) :=
  match cs with
  | c :: rest =>
    if c = 'T' ∨ c = 't' ∨ c = ' ' then do
      match ← skipHour? rest with
      | some rest => do skipOffset? (← skipMinutes? rest)
      | none => some cs
    else some cs
  | [] => some []

/-- A date, a time, or both. Four digits and a hyphen start a date, two digits and
    a colon a time; then it must be one. The outer option is for that, the inner
    one for a text that starts neither. -/
def moment? (cs : List Char) : Option (Option (List Char)) :=
  match cs with
  | a :: b :: c :: d :: '-' :: rest =>
    if [a, b, c, d].all Char.isDigit then do
      some (← skipTimeOfDay? (← skipDay? (spelt 10 [a, b, c, d]) rest))
    else some none
  | _ => do
    match ← skipHour? cs with
    | some rest => some (← skipMinutes? rest)
    | none => some none

end TaggedRpc.Toml
