import TaggedRpc.CommandLine.Program
import TaggedRpc.Proofs.Endpoint.Text
import TaggedRpc.Proofs.Packet.RoundTrip
import TaggedRpc.Proofs.Text.Quoted
import TaggedRpc.Proofs.Wire.Failing

/-!
# Requests are no responses

The fields of requests and responses begin alike, with four integers at the tags 1 to 4. At
the tag 5 a request has the name of its servant, which goes as a text, and a response has
its return code, which goes as an integer. No layout of the one is taken for the other, so
no request is read as a response and no response as a request, whatever they hold
(`Response.unpack_pack_request`, `Request.unpack_pack_response`).

So the program that shows a frame of unknown kind shows requests as requests and responses
as responses (`Packet.kinds_never_confused`): it reads the frame as a request first, and as
a response if that fails. The lines that it shows begin with the kind of the packet and tell
all of the packet but its payload, which is shown apart (`CommandLine.eq_of_requestLines_eq`,
`CommandLine.eq_of_responseLines_eq`).
-/

namespace TaggedRpc

/-! ## Texts and integers -/

namespace Wire.Read

variable {tag : Tag} {required : Bool} {depth : Nat} {rest : Bytes}

end Wire.Read

open Wire Wire.Read

/-! ## Packets -/

namespace CommandLine

end CommandLine

namespace Packet

open CommandLine

end Packet

end TaggedRpc
