import TaggedRpc.Packet.Context
import TaggedRpc.Frame

/-!
# Packets

A *request* asks a servant to run one of its functions on a buffer; a *response*
answers the request with the same id. Both go as the bare fields of a struct in
a frame. Every field of a request is required; a response may leave out its
description and its context.

The id 0 belongs to no request: a response that carries it is a *push*, sent by
the server on its own account.

* `Request.pack`, `Response.pack`: the frame of a packet;
* `Request.unpack`, `Response.unpack`: the packet of a frame, whose header is
  not looked at;
* `Response.replyTo`: the answer to a request.
-/

namespace TaggedRpc

/-! ## The numbers in a packet -/

namespace Packet

/-- The version of the protocol. -/
def version : Int16 := 1

/-- The packet type of a call that is answered. -/
def normal : Int8 := 0

/-- The packet type of a call that is not answered. -/
def oneway : Int8 := 1

/-- The flag of a call that is routed by a hash. -/
def hashFlag : Int32 := 0x01

/-- The flag of a call whose answer goes to a callback. -/
def asyncFlag : Int32 := 0x10

/-- The flag of a call that names its set. -/
def setNameFlag : Int32 := 0x80

end Packet

/-! ## Requests -/

/-- A call to a function of a servant. -/
structure Request where
  version : Int16
  packetType : Int8
  /-- The flags of the call. -/
  messageType : Int32
  requestId : Int32
  servant : String
  func : String
  /-- The arguments, encoded. -/
  buffer : Bytes
  /-- How long the caller waits, in milliseconds. -/
  timeout : Int32
  context : Context
  status : Context
  deriving DecidableEq, Repr, Inhabited

namespace Request

open Wire

/-- Whether no answer is expected. -/
def isOneway (r : Request) : Bool := r.packetType == Packet.oneway

/-- The bare fields of a request. -/
def encode (r : Request) : Bytes :=
  Writer.int16 r.version 1 ++ Writer.int8 r.packetType 2 ++ Writer.int32 r.messageType 3 ++
    Writer.int32 r.requestId 4 ++ Writer.string r.servant 5 ++ Writer.string r.func 6 ++
    Writer.bytes r.buffer 7 ++ Writer.int32 r.timeout 8 ++ r.context.encode 9 ++
    r.status.encode 10

/-- Reads the bare fields of a request. -/
def decode : Read Request := do
  let version ← Read.int16 1 true
  let packetType ← Read.int8 2 true
  let messageType ← Read.int32 3 true
  let requestId ← Read.int32 4 true
  let servant ← Read.string 5 true
  let func ← Read.string 6 true
  let buffer ← Read.bytes 7 true
  let timeout ← Read.int32 8 true
  let context ← Context.decode 9 true
  let status ← Context.decode 10 true
  pure { version := version.getD 0, packetType := packetType.getD 0
         messageType := messageType.getD 0, requestId := requestId.getD 0
         servant := servant.getD "", func := func.getD "", buffer := buffer.getD []
         timeout := timeout.getD 0, context, status }

/-- The frame of a request. -/
def pack (r : Request) : Bytes := Frame.pack r.encode

/-- The request in a frame. -/
def unpack (frame : Bytes) : Except DecodeError Request :=
  decode.runOn (Frame.body frame)

end Request

/-! ## Responses -/

/-- An answer to a request, or a push. -/
structure Response where
  version : Int16
  packetType : Int8
  requestId : Int32
  messageType : Int32
  /-- The return code. -/
  ret : Int32
  /-- The result, encoded. -/
  buffer : Bytes
  status : Context
  /-- What the server has to say on the result. -/
  description : String
  context : Context
  deriving DecidableEq, Repr, Inhabited

namespace Response

open Wire

/-- Whether the server sent this without being asked. -/
def isPush (r : Response) : Bool := r.requestId == 0

/-- The answer to a request. -/
def replyTo (req : Request) (ret : Int32) (buffer : Bytes) : Response where
  version := req.version
  packetType := req.packetType
  requestId := req.requestId
  messageType := req.messageType
  ret := ret
  buffer := buffer
  status := .empty
  description := ""
  context := .empty

/-- The bare fields of a response. -/
def encode (r : Response) : Bytes :=
  Writer.int16 r.version 1 ++ Writer.int8 r.packetType 2 ++ Writer.int32 r.requestId 3 ++
    Writer.int32 r.messageType 4 ++ Writer.int32 r.ret 5 ++ Writer.bytes r.buffer 6 ++
    r.status.encode 7 ++ Writer.string r.description 8 ++ r.context.encode 9

/-- Reads the bare fields of a response. -/
def decode : Read Response := do
  let version ← Read.int16 1 true
  let packetType ← Read.int8 2 true
  let requestId ← Read.int32 3 true
  let messageType ← Read.int32 4 true
  let ret ← Read.int32 5 true
  let buffer ← Read.bytes 6 true
  let status ← Context.decode 7 true
  let description ← Read.string 8 false
  let context ← Context.decode 9 false
  pure { version := version.getD 0, packetType := packetType.getD 0
         requestId := requestId.getD 0, messageType := messageType.getD 0, ret := ret.getD 0
         buffer := buffer.getD [], status, description := description.getD "", context }

/-- The frame of a response. -/
def pack (r : Response) : Bytes := Frame.pack r.encode

/-- The response in a frame. -/
def unpack (frame : Bytes) : Except DecodeError Response :=
  decode.runOn (Frame.body frame)

end Response

end TaggedRpc
