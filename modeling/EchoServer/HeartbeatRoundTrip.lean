import EchoServer.ProtocolBase

/-!
# Heartbeats from one end to the other

`AgentServer::tryHeartBeat` builds a heartbeat packet; `Server::onClientRecive`
decodes it and answers with a packet of its own.  The sender writes the body
behind the head.  The receiver hands `READXY` the whole packet, so the
timestamp it decodes is made of the four bytes of the head.
-/

namespace EchoServer

open ByteOrder MallocManager

/-- The `AgentServer` field that `tryHeartBeat` reads and writes. -/
structure AgentServer where
  nLastHeartTime : UInt32
  deriving DecidableEq

namespace AgentServer

/-- The packet that `AgentServer::tryHeartBeat` hands to `send`. -/
def heartbeatFrame (host : Host) (timestamp : UInt32) :
    Except StreamStop Bytes := do
  let message : Heartbeat := { timestamp }
  let sendbuf := newBlock Heartbeat.size
  let (sendbuf, length) ←
    writeWindow sendbuf headLen Heartbeat.size (message.insert host)
  let head : ProtocolHead :=
    { len := UInt16.ofNat (length.toNat + headLen), xyid := xyidHeartbeat }
  let (sendbuf, _) ← writeWindow sendbuf 0 headLen (head.insert host)
  return sendbuf.take head.len.toNat

/-- `AgentServer::tryHeartBeat` at the clock value `now`: the packet sent, if
one is due. -/
def tryHeartBeat (host : Host) (now : UInt32) (agent : AgentServer) :
    Except StreamStop (AgentServer × Option Bytes) :=
  if agent.nLastHeartTime = 0 ∨ 60 ≤ now - agent.nLastHeartTime then do
    let frame ← heartbeatFrame host now
    return ({ nLastHeartTime := now }, some frame)
  else
    return (agent, none)

end AgentServer

/-- The counters of `Server`. -/
structure Server where
  nSocketCount : Int
  nAcceptCount : Int
  nCloseCount : Int
  nReciveCount : Int
  nSendCount : Int
  deriving DecidableEq

namespace Server

/-- `Server::Server`. -/
def initial : Server where
  nSocketCount := 0
  nAcceptCount := 0
  nCloseCount := 0
  nReciveCount := 0
  nSendCount := 0

/-- `Server::onAcceptClient`. -/
def onAcceptClient (server : Server) : Server :=
  { server with
    nAcceptCount := server.nAcceptCount + 1
    nSocketCount := server.nSocketCount + 1 }

/-- `Server::onClientClose`. -/
def onClientClose (server : Server) : Server :=
  { server with
    nCloseCount := server.nCloseCount + 1
    nSocketCount := server.nSocketCount - 1 }

/-- `READXY(req, buf, len)` in `Server::onClientRecive`. -/
def readRequest (host : Host) (buf : Bytes) : Except StreamStop Heartbeat :=
  readXY (Heartbeat.extract host) buf

/-- The answer of `Server::onClientRecive`, built with `GET_TEMPLATE_BUF` at
the clock value `now`. -/
def reply (host : Host) (now : UInt32) : Except StreamStop Bytes := do
  let response : Heartbeat := { timestamp := now }
  let (sendbuf, head) ← getTemplateBuf host (newBlock Heartbeat.size)
    xyidHeartbeat Heartbeat.size (response.insert host)
  return sendbuf.take head.len.toNat

/-- `Server::onClientRecive`: the counters afterwards and the packet handed to
`AgentClient::send`, if any. -/
def onClientRecive (host : Host) (now : UInt32) (head : ProtocolHead)
    (buf : Bytes) (server : Server) : Server × Option Bytes :=
  let server := { server with nReciveCount := server.nReciveCount + 1 }
  if head.xyid ≠ xyidHeartbeat then
    (server, none)
  else
    match readRequest host buf, reply host now with
    | .ok _, .ok sendbuf =>
        ({ server with nSendCount := server.nSendCount + 1 }, some sendbuf)
    | _, _ => (server, none)

/-- `Server::onTimer`, which has printed the counters. -/
def onTimer (server : Server) : Server :=
  { server with
    nAcceptCount := 0
    nCloseCount := 0
    nReciveCount := 0
    nSendCount := 0 }

end Server

/-- The body of a heartbeat is written behind a head of eight bytes' length. -/
def heartbeatHead : ProtocolHead where
  len := 8
  xyid := xyidHeartbeat

/-- The four bytes behind the head take the timestamp. -/
theorem writeWindow_heartbeat (host : Host) (timestamp : UInt32) :
    writeWindow (newBlock Heartbeat.size) headLen Heartbeat.size
        (Heartbeat.insert host { timestamp }) =
      .ok ((newBlock Heartbeat.size).take headLen ++
        littleEndian 4 timestamp.toNat, 4) := by
  have inserted := writeUnsigned_attach host
    (((newBlock Heartbeat.size).drop headLen).take Heartbeat.size)
    timestamp.toNat
  exact writeWindow_eq inserted

/-- The packet of a heartbeat: its head, then the timestamp. -/
theorem heartbeatFrame_eq (host : Host) (timestamp : UInt32) :
    AgentServer.heartbeatFrame host timestamp =
      .ok (heartbeatHead.bytes ++ littleEndian 4 timestamp.toNat) := by
  have headWritten := writeWindow_head host heartbeatHead
    ((newBlock Heartbeat.size).take headLen ++
      littleEndian 4 timestamp.toNat) (by simp [headLen])
  rw [List.drop_left' (by rfl)] at headWritten
  have headEq : ProtocolHead.mk (UInt16.ofNat ((4 : Int).toNat + headLen))
      xyidHeartbeat = heartbeatHead := rfl
  simp only [AgentServer.heartbeatFrame, writeWindow_heartbeat, bind,
    Except.bind, headEq, headWritten, pure, Except.pure, Except.ok.injEq]
  exact List.take_of_length_le (by simp [headLen, heartbeatHead])

/-- `onClientRecive` decodes the timestamp from the first bytes it is given. -/
theorem readRequest_eq (host : Host) (buf : Bytes)
    (enough : 4 ≤ buf.length) :
    Server.readRequest host buf =
      .ok { timestamp := UInt32.ofNat (littleEndianValue (buf.take 4)) } := by
  have read := readUnsigned_eq host 4 (Bios.attach buf false)
    (by simp [Bios.attach])
    (by simp only [Bios.avail, Bios.attach]; omega)
  simp only [Bios.attach, wireValue] at read
  simp [Server.readRequest, readXY, Heartbeat.extract, readUInt, bind,
    EStateM.bind, pure, EStateM.pure, Bios.attach, read]

/-- What the receiving side makes of the heartbeat packet of a timestamp: the
head parsed by `ServerSocket::pairCallback`, the size of the packet, and the
request decoded by `Server::onClientRecive`. -/
def heartbeatRoundTrip (sender receiver : Host) (timestamp : UInt32) :
    Except StreamStop (ProtocolHead × Nat × Heartbeat) := do
  let frame ← AgentServer.heartbeatFrame sender timestamp
  let head ← parseHead receiver frame
  let request ← Server.readRequest receiver frame
  return (head, frame.length, request)

/-- The round trip reports the head of a whole heartbeat packet and decodes
the timestamp that was sent. -/
def HeartbeatArrives (sender receiver : Host) (timestamp : UInt32) : Prop :=
  ∃ head size request,
    heartbeatRoundTrip sender receiver timestamp = .ok (head, size, request) ∧
      head.xyid = xyidHeartbeat ∧
        head.len.toNat = size ∧
          request.timestamp = timestamp

/-- Whatever timestamp is sent, the receiver decodes the bytes of the head. -/
theorem heartbeatRoundTrip_eq (sender receiver : Host) (timestamp : UInt32) :
    heartbeatRoundTrip sender receiver timestamp =
      .ok (heartbeatHead, 8, { timestamp := 65544 }) := by
  have request := readRequest_eq receiver
    (heartbeatHead.bytes ++ littleEndian 4 timestamp.toNat) (by simp)
  rw [List.take_left' (by simp [headLen])] at request
  simp only [heartbeatRoundTrip, heartbeatFrame_eq, bind, Except.bind,
    parseHead_bytes, request, pure, Except.pure]
  simp only [List.length_append, ProtocolHead.bytes_length,
    littleEndian_length]
  rfl

/-- A heartbeat arrives with the timestamp that was sent exactly when this is
the number spelled by the bytes of the head. -/
theorem heartbeatArrives_iff (sender receiver : Host) (timestamp : UInt32) :
    HeartbeatArrives sender receiver timestamp ↔ timestamp = 65544 := by
  constructor
  · rintro ⟨head, size, request, roundTrip, -, -, sent⟩
    rw [heartbeatRoundTrip_eq] at roundTrip
    simp only [Except.ok.injEq, Prod.mk.injEq] at roundTrip
    rw [← sent, ← roundTrip.2.2]
  · rintro rfl
    exact ⟨heartbeatHead, 8, _, heartbeatRoundTrip_eq sender receiver _,
      rfl, rfl, rfl⟩

/-- The heartbeat of timestamp zero is decoded with another timestamp. -/
theorem heartbeat_zero_lost :
    ¬ ∀ (sender receiver : Host) (timestamp : UInt32),
      HeartbeatArrives sender receiver timestamp := by
  intro arrives
  obtain ⟨head, size, request, roundTrip, -, -, sent⟩ :=
    arrives .little .little 0
  have evaluated : heartbeatRoundTrip .little .little 0 =
      .ok (heartbeatHead, 8, { timestamp := 65544 }) := by decide
  rw [evaluated] at roundTrip
  simp only [Except.ok.injEq, Prod.mk.injEq] at roundTrip
  rw [← roundTrip.2.2] at sent
  exact absurd sent (by decide)

end EchoServer
