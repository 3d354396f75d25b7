/-!
# Forms

What a command takes from its command line is a *form* to be filled in: options,
each with a value, and positional arguments, one for each slot. The words of the
line fill it in from left to right.

* An option is written with its name after two dashes, or with its letter after
  one. Its value follows in the next word, in the same word after an equals sign,
  or right after the letter. No option may come twice.
* Two dashes alone end the options: all words after them are positional.
* `--help` and `-h` ask for help, wherever they come, unless something before them
  is wrong already.

Whether a word is an option goes by its first characters only, so the value of an
option in a word of its own cannot start with a dash, unless it is one dash.
-/

namespace TaggedRpc.CommandLine

/-- An option of a form. -/
structure Parameter (α : Type) where
  name : String
  letter : Option Char := none
  /-- Enters a value, if it is admitted. -/
  enter : String → α → Option α

/-- What a command takes, and what it starts with. -/
structure Form (α : Type) where
  parameters : List (Parameter α) := []
  /-- The slots for positional arguments, all of which must be filled. -/
  slots : List (String → α → Option α) := []
  start : α

/-- Why a form is not filled in. -/
inductive Unfilled where
  /-- Help was asked for. -/
  | help
  /-- A word is wrong or missing. -/
  | misuse
  deriving DecidableEq, Repr

/-! ## Words -/

/-- What a word is. -/
inductive Word where
  /-- The name of an option, perhaps with a value. -/
  | long (name : String) (value : Option String)
  /-- One dash, a letter and what follows. -/
  | short (letter : Char) (rest : List Char)
  /-- Two dashes. -/
  | endOfOptions
  /-- Anything else. -/
  | plain (text : String)
  deriving DecidableEq, Repr

/-- The name of an option, and the value after the first equals sign. -/
def Word.named (cs : List Char) : Word :=
  match cs.span (· ≠ '=') with
  | (name, _ :: value) => .long (String.ofList name) (some (String.ofList value))
  | (name, []) => .long (String.ofList name) none

/-- What a word is. -/
def Word.ofText (s : String) : Word :=
  match s.toList with
  | ['-', '-'] => .endOfOptions
  | '-' :: '-' :: cs => .named cs
  | '-' :: c :: cs => .short c cs
  | _ => .plain s

/-! ## Filling in -/

variable {α : Type}

/-- A form that is filled in halfway. -/
structure Filling (α : Type) where
  entered : α
  /-- The options that have come. -/
  seen : List String := []
  /-- The slots that are free. -/
  free : List (String → α → Option α)
  /-- An option that waits for its value. -/
  waiting : Option (Parameter α) := none
  /-- Whether the options have ended. -/
  ended : Bool := false

namespace Filling

/-- Enters the value of an option. -/
def enter (s : Filling α) (p : Parameter α) (value : String) : Except Unfilled (Filling α) :=
  match p.enter value s.entered with
  | some entered =>
    if p.name ∈ s.seen then .error .misuse
    else .ok { s with entered, seen := p.name :: s.seen, waiting := none }
  | none => .error .misuse

/-- Fills the next slot. -/
def place (s : Filling α) (text : String) : Except Unfilled (Filling α) :=
  match s.free with
  | slot :: free =>
    match slot text s.entered with
    | some entered => .ok { s with entered, free }
    | none => .error .misuse
  | [] => .error .misuse

/-- An option comes, with its value or without. -/
def option (s : Filling α) (value : Option String) : Option (Parameter α) →
    Except Unfilled (Filling α)
  | none => .error .misuse
  | some p =>
    match value with
    | some value => s.enter p value
    | none => .ok { s with waiting := some p }

/-- The value right after a letter, with an equals sign in front or not. -/
def attached : List Char → Option String
  | [] => none
  | '=' :: cs => some (String.ofList cs)
  | cs => some (String.ofList cs)

/-- A word comes. -/
def step (f : Form α) (s : Filling α) (word : String) : Except Unfilled (Filling α) :=
  if s.ended then s.place word
  else
    match Word.ofText word, s.waiting with
    | .plain value, some p => s.enter p value
    | .plain value, none => s.place value
    | _, some _ => .error .misuse
    | .endOfOptions, none => .ok { s with ended := true }
    | .long "help" none, none | .short 'h' _, none => .error .help
    | .long name value, none => s.option value (f.parameters.find? (·.name == name))
    | .short c cs, none =>
      s.option (attached cs) (f.parameters.find? (·.letter == some c))

/-- What has been entered, if nothing is missing. -/
def finish (s : Filling α) : Except Unfilled α :=
  if s.waiting.isNone && s.free.isEmpty then .ok s.entered else .error .misuse

end Filling

/-- Fills a form in. -/
def Form.fill (f : Form α) (words : List String) : Except Unfilled α := do
  (← words.foldlM (Filling.step f) { entered := f.start, free := f.slots }).finish

end TaggedRpc.CommandLine
