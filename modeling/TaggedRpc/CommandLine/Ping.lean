import TaggedRpc.Client.Call
import TaggedRpc.CommandLine.Command
import TaggedRpc.CommandLine.Report

/-!
# Pinging

A series of calls to the function that every servant has, one after another with a
pause between two. Each call gets a line with the time that it took or why it
failed, and in the end there is a summary.
-/

namespace TaggedRpc.CommandLine

/-- How one call went. -/
abbrev Pong := Except RpcError Duration

/-- The microseconds of a duration with one decimal, rounded. -/
def microsText (d : Duration) : String :=
  let tenths := (d.nanos + 50) / 100
  s!"{tenths / 10}.{tenths % 10}"

/-- The line of a call. -/
def pongLine (number : Nat) : Pong → String
  | .ok time => s!"seq={number} time={microsText time} us"
  | .error e => s!"seq={number} {e.message}"

/-- The line on the times of the calls that went well, if there are any. -/
def timesLine (times : List Nat) : List String :=
  match times.min?, times.max? with
  | some least, some most =>
    let mean := times.foldl (· + ·) 0 / times.length
    let text := fun nanos => microsText ⟨nanos⟩
    ["rtt min/avg/max = " ++ text least ++ "/" ++ text mean ++ "/" ++ text most ++ " us"]
  | _, _ => []

/-- The lines of the summary. -/
def summaryLines (pongs : List Pong) : List String :=
  let times := pongs.filterMap fun p => p.toOption.map Duration.nanos
  let failed := pongs.length - times.length
  ["", s!"--- {pongs.length} calls, {times.length} ok, {failed} failed"] ++ timesLine times

/-- One call. -/
def ping (out : Outside) (servant : Nat) (timeout : Duration) : StateM Client Pong := do
  let start := (← get).clock
  let outcome ← Client.invoke out {} servant Packet.pingFunction [] { timeout := some timeout }
  let time := (← get).clock - start
  pure (outcome.map fun _ => .ofMillis time)

/-- As many calls as are left, with pauses between them. -/
def pings (out : Outside) (servant : Nat) (o : Series) : (left : Nat) → StateM Client (List Pong)
  | 0 => pure []
  | left + 1 => do
    let pong ← ping out servant (.ofMillis o.timeoutMs)
    if 0 < left then Client.sleep out o.intervalMs
    let later ← pings out servant o left
    pure (pong :: later)

/-- The calls of a series to a servant, and the end of the client. -/
def pingServant (out : Outside) (servant : Nat) (o : Series) : StateM Client (List Pong) := do
  let pongs ← pings out servant o o.count
  Client.shutdown out (.ofMillis 100)
  pure pongs

/-- Carries a series of pings out. -/
def pingSeries (out : Outside) (o : Series) : Report :=
  let config := ({} : Config).withRequestTimeout (.ofMillis o.timeoutMs)
  match Client.new config {} with
  | .error e => .failure (RpcError.config e.message).message
  | .ok client =>
    match (Client.proxy o.object).run client with
    | (.error e, _) => .failure e.message
    | (.ok servant, client) =>
      let name := (client.servants[servant]?.map Servant.name).getD ""
      let (pongs, _) := (pingServant out servant o).run client
      let lines := pongs.zipIdx.map fun (p, i) => pongLine (i + 1) p
      (Report.message s!">>> PING {name}").andThen (.lines (lines ++ summaryLines pongs))

end TaggedRpc.CommandLine
