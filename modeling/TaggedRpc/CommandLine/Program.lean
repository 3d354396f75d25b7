import TaggedRpc.CommandLine.Help
import TaggedRpc.CommandLine.Inspection
import TaggedRpc.CommandLine.Ping
import TaggedRpc.Config.Document

/-!
# The program

What a command does, given what is outside: the network, and the file that the
command names, as its bytes or the reason why it cannot be read.
-/

namespace TaggedRpc.CommandLine

namespace Command

/-- The file that a command reads. -/
def file? : Command → Option String
  | decode capture => some capture.file
  | _ => none

/-- Carries a command out. -/
def run (out : Outside) (content : Except String Bytes) : Command → Report
  | ping series => pingSeries out series
  | decode capture =>
    match content with
    | .ok bytes => inspect bytes capture.kind
    | .error reason => .failure reason
  | config => { output := ({} : Config).toToml }
  | help topic => { output := topic.text }
  | version => { output := versionText }
  | misuse => { code := 2, messages := Topic.program.text }

end Command

end TaggedRpc.CommandLine
