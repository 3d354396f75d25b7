import TaggedRpc.Wire.Schema
import TaggedRpc.Packet.Basic

/-!
# The layouts of packets

The fields of requests and responses as a schema lists them, for tools that
read and write packets by their schema, and a packet as the values of its fields.

* `Request.layout`, `Response.layout`: the fields;
* `Request.values`, `Response.values`: what the fields hold, in their order;
* `Request.ofValues?`, `Response.ofValues?`: the packet whose fields hold it.
-/

namespace TaggedRpc

open Wire

/-! ## Contexts -/

/-- The type of contexts. -/
def Context.type : Ty := .map .string .string

/-- A context as a map of texts. -/
def Context.value (c : Context) : Val :=
  .map (c.pairs.map fun (k, v) => (.string k, .string v))

/-- The context of a list of pairs of texts. Other pairs are passed over. -/
def Context.ofPairs (ps : List (Val × Val)) : Context :=
  .ofList (ps.filterMap fun
    | (.string k, .string v) => some (k, v)
    | _ => none)

/-! ## Requests -/

/-- The fields of a request. -/
def Request.layout : Layout := [
  ⟨"version", 1, true, .int .int16⟩,
  ⟨"packet_type", 2, true, .int .int8⟩,
  ⟨"message_type", 3, true, .int .int32⟩,
  ⟨"request_id", 4, true, .int .int32⟩,
  ⟨"servant", 5, true, .string⟩,
  ⟨"func", 6, true, .string⟩,
  ⟨"buffer", 7, true, .bytes .blob⟩,
  ⟨"timeout", 8, true, .int .int32⟩,
  ⟨"context", 9, true, Context.type⟩,
  ⟨"status", 10, true, Context.type⟩]

/-- What the fields of a request hold. -/
def Request.values (r : Request) : List Val := [
  .int r.version.toInt,
  .int r.packetType.toInt,
  .int r.messageType.toInt,
  .int r.requestId.toInt,
  .string r.servant,
  .string r.func,
  .bytes r.buffer,
  .int r.timeout.toInt,
  r.context.value,
  r.status.value]

/-- The request whose fields hold given values. -/
def Request.ofValues? : List Val → Option Request
  | [.int version, .int packetType, .int messageType, .int requestId, .string servant,
      .string func, .bytes buffer, .int timeout, .map context, .map status] =>
    some {
      version := .ofInt version
      packetType := .ofInt packetType
      messageType := .ofInt messageType
      requestId := .ofInt requestId
      servant, func, buffer
      timeout := .ofInt timeout
      context := .ofPairs context
      status := .ofPairs status }
  | _ => none

/-! ## Responses -/

/-- The fields of a response. -/
def Response.layout : Layout := [
  ⟨"version", 1, true, .int .int16⟩,
  ⟨"packet_type", 2, true, .int .int8⟩,
  ⟨"request_id", 3, true, .int .int32⟩,
  ⟨"message_type", 4, true, .int .int32⟩,
  ⟨"ret", 5, true, .int .int32⟩,
  ⟨"buffer", 6, true, .bytes .blob⟩,
  ⟨"status", 7, true, Context.type⟩,
  ⟨"desc", 8, false, .string⟩,
  ⟨"context", 9, false, Context.type⟩]

/-- What the fields of a response hold. -/
def Response.values (r : Response) : List Val := [
  .int r.version.toInt,
  .int r.packetType.toInt,
  .int r.requestId.toInt,
  .int r.messageType.toInt,
  .int r.ret.toInt,
  .bytes r.buffer,
  r.status.value,
  .string r.description,
  r.context.value]

/-- The response whose fields hold given values. -/
def Response.ofValues? : List Val → Option Response
  | [.int version, .int packetType, .int requestId, .int messageType, .int ret, .bytes buffer,
      .map status, .string description, .map context] =>
    some {
      version := .ofInt version
      packetType := .ofInt packetType
      requestId := .ofInt requestId
      messageType := .ofInt messageType
      ret := .ofInt ret
      buffer
      status := .ofPairs status
      description
      context := .ofPairs context }
  | _ => none

end TaggedRpc
