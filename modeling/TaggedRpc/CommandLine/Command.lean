import TaggedRpc.CommandLine.Form
import TaggedRpc.Power
import TaggedRpc.Text.Number

/-!
# Commands

What the command line asks for: to ping an object, to show a frame, to show the
default configuration, to show help or the version, or nothing that makes sense.

* `Command.ofWords`: the command of a command line.
-/

namespace TaggedRpc.CommandLine

/-- What is in a frame. -/
inductive FrameKind where
  /-- A request if it can be read as one, and a response otherwise. -/
  | auto
  | request
  | response
  deriving DecidableEq, Repr

/-- The names of the kinds of frames. -/
def FrameKind.names : List (String × FrameKind) :=
  [("auto", .auto), ("request", .request), ("response", .response)]

/-- A series of pings. -/
structure Series where
  /-- The reference of the object. -/
  object : String := ""
  /-- How many calls there are. -/
  count : Nat := 5
  /-- How long a call may take, in milliseconds. -/
  timeoutMs : Nat := 3000
  /-- The pause between two calls, in milliseconds. -/
  intervalMs : Nat := 200
  deriving DecidableEq, Repr

/-- A frame in a file. -/
structure Capture where
  file : String := ""
  kind : FrameKind := .auto
  deriving DecidableEq, Repr

/-- What there is help on. -/
inductive Topic where
  | program
  | ping
  | decode
  | config
  | help
  deriving DecidableEq, Repr

/-- What a command line asks for. -/
inductive Command where
  | ping (series : Series)
  | decode (capture : Capture)
  | config
  | help (topic : Topic)
  | version
  /-- It makes no sense. -/
  | misuse
  deriving DecidableEq, Repr

/-! ## The forms of the commands -/

/-- The greatest number of calls. -/
def maxCount : Nat := 2 ^ 32 - 1

/-- The greatest number of milliseconds. -/
def maxMillis : Nat := 2 ^ 64 - 1

/-- What is needed for a series of pings. A count may be zero with a minus sign. -/
def Series.form : Form Series where
  parameters := [
    { name := "count", letter := some 'n'
      enter := fun s o => (Text.int? 0 maxCount s).map fun n => { o with count := n.toNat } },
    { name := "timeout-ms"
      enter := fun s o => (Text.nat? maxMillis s).map fun n => { o with timeoutMs := n } },
    { name := "interval-ms", letter := some 'i'
      enter := fun s o => (Text.nat? maxMillis s).map fun n => { o with intervalMs := n } }]
  slots := [fun s o => some { o with object := s }]
  start := {}

/-- What is needed to show a frame. The name of a file is not empty. -/
def Capture.form : Form Capture where
  parameters := [
    { name := "kind", letter := some 'k'
      enter := fun s o => (FrameKind.names.lookup s).map fun kind => { o with kind } }]
  slots := [fun s o => if s = "" then none else some { o with file := s }]
  start := {}

/-! ## Reading -/

namespace Command

/-- The command of a form that is filled in, or help on it. -/
def ofForm {α : Type} (f : Form α) (topic : Topic) (make : α → Command) (words : List String) :
    Command :=
  match f.fill words with
  | .ok a => make a
  | .error .help => help topic
  | .error .misuse => misuse

/-- Help on the topic of some words. -/
def ofHelpWords : List String → Command
  | [] => help .program
  | ["ping"] => help .ping
  | ["decode"] => help .decode
  | ["config"] => help .config
  | ["help"] => help .help
  | _ => misuse

/-- What an option in place of a command asks for. -/
def ofOption : Word → Command
  | .long "help" none | .short 'h' _ => help .program
  | .long "version" none | .short 'V' _ => version
  | _ => misuse

/-- The command of a command line. -/
def ofWords : List String → Command
  | [] => misuse
  | "ping" :: words => ofForm Series.form .ping ping words
  | "decode" :: words => ofForm Capture.form .decode decode words
  | "config" :: words => ofForm { start := () } .config (fun _ => config) words
  | "help" :: words => ofHelpWords words
  | word :: _ => ofOption (.ofText word)

end Command

end TaggedRpc.CommandLine
