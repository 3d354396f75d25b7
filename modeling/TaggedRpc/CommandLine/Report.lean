/-!
# Reports

What a command leaves behind: the text on its output, the text for messages, and
the exit code, which is zero unless something has gone wrong. Reports of one step
after another are put together by `Report.andThen`; nothing comes after a failure.
-/

namespace TaggedRpc.CommandLine

/-- What a command leaves behind. -/
structure Report where
  code : Nat := 0
  /-- The text on the output. -/
  output : String := ""
  /-- The messages. -/
  messages : String := ""
  deriving DecidableEq, Repr, Inhabited

namespace Report

/-- A report with lines on the output. -/
def lines (ls : List String) : Report := { output := String.join (ls.map (· ++ "\n")) }

/-- A report with a message. -/
def message (line : String) : Report := { messages := line ++ "\n" }

/-- A report of a failure. -/
def failure (reason : String) : Report := { message ("Error: " ++ reason) with code := 1 }

/-- One report after another. -/
def andThen (a b : Report) : Report :=
  if a.code = 0 then
    { code := b.code, output := a.output ++ b.output, messages := a.messages ++ b.messages }
  else a

end Report

end TaggedRpc.CommandLine
