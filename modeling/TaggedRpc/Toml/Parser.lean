import TaggedRpc.Toml.Draft
import TaggedRpc.Toml.Lexeme

/-!
# Reading TOML

A document is a list of *sections*. Each starts with the header of a table or of
an element of an array, except the first, whose entries are those of the
document itself; then follow its entries, one on each line. The sections are read
first, and then put together to one table by `Draft`.

Arrays and inline tables are read with a stack of the ones that are open, whose
height has a bound. Every turn takes a character, except the last.
-/

namespace TaggedRpc.Toml

/-! ## Values -/

/-- A container that is being read: the elements of an array in reverse, or the
    entries of an inline table in reverse with the key whose value is due. -/
inductive Opened where
  | array (elements : List Toml)
  | table (entries : List (List String × Toml)) (key : List String)

/-- A value that holds no others. -/
def scalar? (cs : List Char) : Option (Toml × List Char) :=
  match cs with
  | [] => none
  | c :: _ =>
    if c = '"' ∨ c = '\'' then (string? cs).map fun (s, rest) => (.text s, rest)
    else if c = 't' then
      if cs.take 4 = ['t', 'r', 'u', 'e'] then some (.bool true, cs.drop 4) else none
    else if c = 'f' then
      if cs.take 5 = ['f', 'a', 'l', 's', 'e'] then some (.bool false, cs.drop 5) else none
    else if c = '+' ∨ c = '-' ∨ c.isDigit ∨ c = 'i' ∨ c = 'n' then do
      match ← moment? cs with
      | some rest => some (.moment, rest)
      | none => number? cs
    else none

/-- The key of an entry and the equals sign. -/
def entryKey? (cs : List Char) : Option (List String × List Char) := do
  let (key, rest) ← key? cs
  let rest ← after? '=' rest
  pure (key, skipBlanks rest)

/-- The text after what may stand between the elements of an array. -/
def skipBetween (cs : List Char) : List Char := skipLines (cs.length + 1) cs

mutual

/-- Reads on where a value is due inside the containers that are open. -/
def readValue : (turns : Nat) → List Opened → List Char → Option (Toml × List Char)
  | 0, _, _ => none
  | turns + 1, opened, cs =>
    match cs with
    | '[' :: rest =>
      if depthLimit ≤ opened.length then none
      else
        match skipBetween rest with
        | ']' :: rest => readAfter turns opened (.array []) rest
        | rest => readValue turns (.array [] :: opened) rest
    | '\x7b' :: rest =>
      if depthLimit ≤ opened.length then none
      else
        match skipBlanks rest with
        | '\x7d' :: rest => readAfter turns opened (.table []) rest
        | rest =>
          match entryKey? rest with
          | some (key, rest) => readValue turns (.table [] key :: opened) rest
          | none => none
    | cs =>
      match scalar? cs with
      | some (v, rest) => readAfter turns opened v rest
      | none => none

/-- Reads on where the value `v` has just ended. -/
def readAfter : (turns : Nat) → List Opened → Toml → List Char → Option (Toml × List Char)
  | 0, _, _, _ => none
  | _ + 1, [], v, cs => some (v, cs)
  | turns + 1, .array vs :: opened, v, cs =>
    match skipBetween cs with
    | ',' :: rest =>
      match skipBetween rest with
      | ']' :: rest => readAfter turns opened (.array (v :: vs).reverse) rest
      | rest => readValue turns (.array (v :: vs) :: opened) rest
    | ']' :: rest => readAfter turns opened (.array (v :: vs).reverse) rest
    | _ => none
  | turns + 1, .table entries key :: opened, v, cs =>
    match skipBlanks cs with
    | ',' :: rest =>
      match entryKey? rest with
      | some (key', rest) => readValue turns (.table ((key, v) :: entries) key' :: opened) rest
      | none => none
    | '\x7d' :: rest =>
      match Draft.assignAll [] ((key, v) :: entries).reverse with
      | some draft => readAfter turns opened draft.finish rest
      | none => none
    | _ => none

end

/-- A value. -/
def value? (cs : List Char) : Option (Toml × List Char) := readValue (cs.length + 1) [] cs

/-! ## Sections -/

/-- The header of a section. -/
inductive Header where
  /-- The document itself. -/
  | document
  /-- A table. -/
  | table (path : List String)
  /-- An element of an array of tables. -/
  | element (path : List String)
  deriving DecidableEq, Repr

/-- A section of a document. -/
structure Section where
  header : Header
  entries : List (List String × Toml)

/-- A header. -/
def header? : List Char → Option (Header × List Char)
  | '[' :: '[' :: rest => do
    let (path, rest) ← key? rest
    let rest ← after? ']' rest
    let rest ← after? ']' rest
    pure (.element path, rest)
  | '[' :: rest => do
    let (path, rest) ← key? rest
    let rest ← after? ']' rest
    pure (.table path, rest)
  | _ => none

/-- An entry. -/
def entry? (cs : List Char) : Option ((List String × Toml) × List Char) := do
  let (key, rest) ← entryKey? cs
  let (v, rest) ← value? rest
  pure ((key, v), rest)

/-- The sections of a text, where the section `s` is under way with its entries in
    reverse. Every turn takes a line. -/
def sections? : (turns : Nat) → (s : Section) → List Char → Option (List Section)
  | 0, _, _ => none
  | turns + 1, s, cs =>
    let done : Section := { s with entries := s.entries.reverse }
    match skipBlanks cs with
    | [] => some [done]
    | '[' :: rest => do
      let (header, rest) ← header? ('[' :: rest)
      let rest ← toLineEnd? rest
      (sections? turns { header, entries := [] } rest).map (done :: ·)
    | c :: rest =>
      if c = '#' ∨ c = '\n' ∨ c = '\r' then do
        sections? turns s (← toLineEnd? (c :: rest))
      else do
        let (e, rest) ← entry? (c :: rest)
        sections? turns { s with entries := e :: s.entries } (← toLineEnd? rest)

/-- Puts a section into the document. -/
def Section.enter (s : Section) (d : Draft) : Option Draft :=
  match s.header with
  | .document => d.assignAll s.entries
  | .table path =>
    d.visit (Draft.declare (path.getLastD "") s.entries) path.dropLast
  | .element path =>
    d.visit (Draft.extend (path.getLastD "") s.entries) path.dropLast

/-- Puts sections into the document, one after another. -/
def enterAll (d : Draft) : List Section → Option Draft
  | [] => some d
  | s :: rest => do enterAll (← s.enter d) rest

/-- The table that a text is. A byte order mark in front does not count. -/
def parse? (s : String) : Option Toml := do
  let cs := match s.toList with
    | '\uFEFF' :: cs => cs
    | cs => cs
  let sections ← sections? (cs.length + 1) { header := .document, entries := [] } cs
  let draft ← enterAll [] sections
  pure draft.finish

end TaggedRpc.Toml
