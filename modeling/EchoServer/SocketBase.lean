import EchoServer.ByteOrder

/-!
# Constants and states shared by the sockets

`SocketBase.h`.
-/

namespace EchoServer

/-- `MAX_SEND_BUF_SIZE`. -/
def maxSendBufSize : Nat := 4096 - 10

/-- `MAX_BUFFER_SIZE`. -/
def maxBufferSize : Nat := 8192

/-- `MAX_WS_TMP_BUFFER_SIZE`. -/
def maxWsTmpBufferSize : Nat := 4096

/-- `eIOSocketStatus`. -/
inductive IOSocketStatus
  | unconnected
  | waitConnect
  | connected
  | whileClose
  | closed
  deriving DecidableEq

/-- `eWebSocketOpCode(nOpcode)`, with the values that have no name. -/
inductive WebSocketOpCode
  | continueFrame
  | textFrame
  | binaryFrame
  | closeFrame
  | pingFrame
  | pongFrame
  | unnamed
  deriving DecidableEq

namespace WebSocketOpCode

def ofNibble (nOpcode : UInt8) : WebSocketOpCode :=
  if nOpcode = 0x0 then continueFrame
  else if nOpcode = 0x1 then textFrame
  else if nOpcode = 0x2 then binaryFrame
  else if nOpcode = 0x8 then closeFrame
  else if nOpcode = 0x9 then pingFrame
  else if nOpcode = 0xA then pongFrame
  else unnamed

end WebSocketOpCode

end EchoServer
