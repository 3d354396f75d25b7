import TaggedRpc.CommandLine.Command

/-!
# Help

What the program says about itself: its name and version, and for each topic a
line on what it is for, how it is used, and what it takes.
-/

namespace TaggedRpc.CommandLine

/-- The name of the program and its version. -/
def versionText : String := "tars-ping 0.1.0\n"

/-- The lines of the help on a topic. -/
def Topic.lines : Topic → List String
  | .program => [
      "Ping TARS servants and decode frames",
      "",
      "Usage: tars-ping <COMMAND>",
      "",
      "Commands:",
      "  ping    Ping a servant through a direct object reference",
      "  decode  Decode a captured frame (4-byte length header included)",
      "  config  Print the default client configuration as TOML",
      "  help    Print this message or the help of the given subcommand(s)",
      "",
      "Options:",
      "  -h, --help     Print help",
      "  -V, --version  Print version"]
  | .ping => [
      "Ping a servant through a direct object reference",
      "",
      "Usage: tars-ping ping [OPTIONS] <OBJ>",
      "",
      "Arguments:",
      "  <OBJ>  Object reference, e.g. \"App.Server.Obj@tcp -h 10.0.0.1 -p 10000\"",
      "",
      "Options:",
      "  -n, --count <COUNT>              Number of calls [default: 5]",
      "      --timeout-ms <TIMEOUT_MS>    Per-call timeout in milliseconds [default: 3000]",
      "  -i, --interval-ms <INTERVAL_MS>  Pause between calls in milliseconds [default: 200]",
      "  -h, --help                       Print help"]
  | .decode => [
      "Decode a captured frame (4-byte length header included)",
      "",
      "Usage: tars-ping decode [OPTIONS] <FILE>",
      "",
      "Arguments:",
      "  <FILE>  File holding one frame",
      "",
      "Options:",
      "  -k, --kind <KIND>  Envelope type [default: auto] [possible values: auto, request, response]",
      "  -h, --help         Print help"]
  | .config => [
      "Print the default client configuration as TOML",
      "",
      "Usage: tars-ping config",
      "",
      "Options:",
      "  -h, --help  Print help"]
  | .help => [
      "Print this message or the help of the given subcommand(s)",
      "",
      "Usage: tars-ping help [COMMAND]...",
      "",
      "Arguments:",
      "  [COMMAND]...  Print help for the subcommand(s)"]

/-- The help on a topic. -/
def Topic.text (t : Topic) : String := String.join (t.lines.map (· ++ "\n"))

end TaggedRpc.CommandLine
