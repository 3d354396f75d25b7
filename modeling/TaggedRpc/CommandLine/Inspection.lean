import TaggedRpc.CommandLine.Command
import TaggedRpc.CommandLine.Report
import TaggedRpc.Packet.Basic
import TaggedRpc.Packet.ReturnCode
import TaggedRpc.Text.Record
import TaggedRpc.Wire.Tree

/-!
# Looking into frames

A captured frame is shown as the fields of its packet, one on each line, and then
its payload: field by field if the payload reads as fields, and by its length
otherwise. Bytes after the frame are passed over with a warning.

A packet of unknown kind is a request if it can be read as one. If it can be read
neither way, the failure to read it as a response is reported.
-/

namespace TaggedRpc.CommandLine

open Wire (DecodeError Tree)

/-- A signed word in hexadecimal digits, as its bits. -/
def bitsText (n : Int32) : String := "0x" ++ Text.hexNat n.toUInt32.toNat

/-- The name of a field of a packet, and its value. -/
def fieldLine (name value : String) : String :=
  "  " ++ name ++ String.ofList (List.replicate (13 - name.length) ' ') ++ value

/-- The lines of a request. -/
def requestLines (r : Request) : List String := [
  "request",
  fieldLine "version" (toString r.version.toInt),
  fieldLine "packet_type" (toString r.packetType.toInt),
  fieldLine "message_type" (bitsText r.messageType),
  fieldLine "request_id" (toString r.requestId.toInt),
  fieldLine "servant" r.servant,
  fieldLine "func" r.func,
  fieldLine "timeout" (toString r.timeout.toInt ++ " ms"),
  fieldLine "context" (Text.dictionary r.context.pairs),
  fieldLine "status" (Text.dictionary r.status.pairs)]

/-- The lines of a response. -/
def responseLines (r : Response) : List String := [
  "response",
  fieldLine "version" (toString r.version.toInt),
  fieldLine "packet_type" (toString r.packetType.toInt),
  fieldLine "message_type" (bitsText r.messageType),
  fieldLine "request_id" (toString r.requestId.toInt),
  fieldLine "ret" (toString r.ret.toInt ++ " (" ++ ReturnCode.name r.ret ++ ")"),
  fieldLine "result_desc" r.description,
  fieldLine "status" (Text.dictionary r.status.pairs),
  fieldLine "context" (Text.dictionary r.context.pairs)]

/-- The lines of the packet in a frame, and its payload. -/
def packetLines (frame : Bytes) : FrameKind → Except DecodeError (List String × Bytes)
  | .request => (Request.unpack frame).map fun r => (requestLines r, r.buffer)
  | .response => (Response.unpack frame).map fun r => (responseLines r, r.buffer)
  | .auto =>
    match Request.unpack frame with
    | .ok r => .ok (requestLines r, r.buffer)
    | .error _ => (Response.unpack frame).map fun r => (responseLines r, r.buffer)

/-- The lines of a payload. -/
def payloadLines (payload : Bytes) : List String :=
  ["payload:",
    match Tree.ofBytes payload with
    | .ok fields => Tree.render fields
    | .error _ => s!"  {payload.length} opaque bytes"]

/-- Shows the packet in a frame. -/
def showFrame (frame : Bytes) (kind : FrameKind) : Report :=
  match packetLines frame kind with
  | .ok (lines, payload) => .lines (lines ++ payloadLines payload)
  | .error e => .failure e.message

/-- Shows the frame at the beginning of some bytes. -/
def inspect (bytes : Bytes) (kind : FrameKind) : Report :=
  match Frame.parse bytes Frame.defaultMaxLength with
  | .incomplete => .failure "truncated frame"
  | .invalid declared => .failure s!"bad frame length {declared}"
  | .complete length =>
    let warning :=
      if length < bytes.length then
        Report.message s!"Warning: {bytes.length - length} trailing bytes ignored"
      else {}
    warning.andThen (showFrame (bytes.take length) kind)

end TaggedRpc.CommandLine
