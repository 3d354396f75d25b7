/-!
# Return codes

A response carries a return code: zero for success, a negative number for what
went wrong on the way, and any other number as the servant pleases. The codes
on the way have names.
-/

namespace TaggedRpc.ReturnCode

def success : Int32 := 0
def invokeTimeout : Int32 := -7
def proxyConnectError : Int32 := -8
def overload : Int32 := -9
def adapterNull : Int32 := -10
def clientDecodeError : Int32 := -12
def sendRequestError : Int32 := -13
def unknown : Int32 := -99

/-- The name of a return code. -/
def name (code : Int32) : String :=
  match code.toInt with
  | 0 => "SUCCESS"
  | -1 => "SERVER_DECODE_ERR"
  | -2 => "SERVER_ENCODE_ERR"
  | -3 => "SERVER_NO_FUNC"
  | -4 => "SERVER_NO_SERVANT"
  | -5 => "SERVER_RESET_GRID"
  | -6 => "SERVER_QUEUE_TIMEOUT"
  | -7 => "INVOKE_TIMEOUT"
  | -8 => "PROXY_CONNECT_ERR"
  | -9 => "SERVER_OVERLOAD"
  | -10 => "ADAPTER_NULL"
  | -11 => "INVOKE_BY_INVALID_SET"
  | -12 => "CLIENT_DECODE_ERR"
  | -13 => "SEND_REQUEST_ERR"
  | _ => "SERVER_UNKNOWN_ERR"

end TaggedRpc.ReturnCode
