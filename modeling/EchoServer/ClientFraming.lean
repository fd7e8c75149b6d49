import EchoServer.ClientIOSocket

/-!
# Packets of one client connection

However the bytes of a connection are cut into reads, the packets handed to
`asynRecive` are the greedy split of the bytes read so far.
-/

namespace EchoServer

open ByteOrder Framing LabelledRun Reception

namespace ClientIOSocket

/-- The read callbacks of a client connection. -/
def readCallback (host : Host) (reception : Reception ClientIOSocket)
    (amount : Nat) : Except RecvStop (Reception ClientIOSocket) :=
  Reception.readCallback asked (recv host) reception amount

/-- The packets handed out are the frames of the bytes read, and the buffer
retains their tail. -/
def Framed (reception : Reception ClientIOSocket) : Prop :=
  reception.asynRecived = packetFormat.frames reception.received ∧
    reception.socket.buffer.Keeps (packetFormat.tail reception.received)

/-- One read callback hands out the packets it completes. -/
theorem readCallback_framed (host : Host)
    {reception : Reception ClientIOSocket} (framed : Framed reception)
    (headers : packetFormat.HeadersSatisfy Announceable
      (reception.received ++ reception.incoming)) (amount : Nat) :
    ∃ next, readCallback host reception amount = .ok next ∧
      Framed next := by
  have split : reception.received ++
      reception.read reception.socket.asked amount ++
        reception.incoming.drop (min amount reception.socket.asked) =
      reception.received ++ reception.incoming := by
    rw [List.append_assoc, Reception.read, List.take_append_drop]
  obtain ⟨buffer, packets, received, frames, keeps⟩ :=
    recv_eq host framed.2 (Reception.read_length_le _ amount)
      ((split.symm ▸ headers).beginning)
  refine ⟨_, Reception.readCallback_eq received, ?_, keeps⟩
  rw [framed.1]
  exact frames.symm

/-- Whatever the reads find, the callbacks of a connection return and hand out
the frames of the bytes read. -/
theorem runActions_framed (host : Host) (amounts : List Nat)
    {reception : Reception ClientIOSocket} (framed : Framed reception)
    (headers : packetFormat.HeadersSatisfy Announceable
      (reception.received ++ reception.incoming)) :
    ∃ final, runActions (readCallback host) reception amounts = .ok final ∧
      Framed final ∧
        final.received ++ final.incoming =
          reception.received ++ reception.incoming := by
  induction amounts generalizing reception with
  | nil => exact ⟨reception, rfl, framed, rfl⟩
  | cons amount amounts ih =>
      obtain ⟨next, stepped, nextFramed⟩ :=
        readCallback_framed host framed headers amount
      have stream := Reception.readCallback_stream stepped
      obtain ⟨final, ran, finalFramed, finalStream⟩ :=
        ih nextFramed (stream.symm ▸ headers)
      refine ⟨final, ?_, finalFramed, finalStream.trans stream⟩
      rw [runActions_cons_ok amounts stepped]
      exact ran

/-- A connection starts with nothing retained. -/
theorem start_framed {socket : ClientIOSocket}
    (fresh : socket.buffer.nRecvBufLen = 0) (stream : Bytes) :
    Framed (Reception.start socket stream) := by
  have noFrames : packetFormat.greedySplit [] = ([], []) := rfl
  refine ⟨by simp [Reception.start, Format.frames, noFrames], ?_⟩
  simpa [Reception.start, Format.tail, noFrames] using
    RecvBuffer.keeps_nil fresh

end ClientIOSocket

/-- On a connection that starts with nothing retained, and on which every
header announces at least its own size and at most that of the buffer, the
packets handed to `asynRecive` after any number of reads are the greedy split
of the bytes read, the buffer retains the unsplit tail, and another way of
reading the same bytes hands out the same packets. -/
theorem clientFraming (host : Host) (socket : ClientIOSocket)
    (stream : Bytes) (amounts : List Nat)
    (fresh : socket.buffer.nRecvBufLen = 0)
    (headers : packetFormat.HeadersSatisfy ClientIOSocket.Announceable
      stream) :
    ∃ final,
      runActions (ClientIOSocket.readCallback host)
          (Reception.start socket stream) amounts = .ok final ∧
        final.received ++ final.incoming = stream ∧
        final.asynRecived = packetFormat.frames final.received ∧
        final.socket.buffer.retained = packetFormat.tail final.received ∧
        ∀ otherAmounts other,
          runActions (ClientIOSocket.readCallback host)
              (Reception.start socket stream) otherAmounts = .ok other →
            other.received = final.received →
              other.asynRecived = final.asynRecived := by
  have started := ClientIOSocket.start_framed fresh stream
  obtain ⟨final, ran, framed, split⟩ :=
    ClientIOSocket.runActions_framed host amounts started headers
  refine ⟨final, ran, split, framed.1, framed.2.2, ?_⟩
  intro otherAmounts other otherRan sameBytes
  obtain ⟨again, againRan, againFramed, -⟩ :=
    ClientIOSocket.runActions_framed host otherAmounts started headers
  obtain rfl : again = other := by
    rw [againRan] at otherRan
    exact Except.ok.inj otherRan
  rw [againFramed.1, framed.1, sameBytes]

/-- A packet and half of the next one's head, read in pieces of three. -/
theorem clientFraming_halfHead :
    ∃ final,
      runActions (ClientIOSocket.readCallback .little)
          (Reception.start (ClientIOSocket.new (Block.zero maxBufferSize))
            [5, 0, 7, 0, 9, 4, 0]) [3, 3, 3] = .ok final ∧
        final.received ++ final.incoming = [5, 0, 7, 0, 9, 4, 0] ∧
        final.asynRecived = packetFormat.frames final.received ∧
        final.socket.buffer.retained = packetFormat.tail final.received ∧
        ∀ otherAmounts other,
          runActions (ClientIOSocket.readCallback .little)
              (Reception.start
                (ClientIOSocket.new (Block.zero maxBufferSize))
                [5, 0, 7, 0, 9, 4, 0]) otherAmounts = .ok other →
            other.received = final.received →
              other.asynRecived = final.asynRecived := by
  have split : packetFormat.greedySplit [5, 0, 7, 0, 9, 4, 0] =
      ([[5, 0, 7, 0, 9]], [4, 0]) := by decide
  apply clientFraming .little _ _ _ rfl
  constructor
  · simp only [Format.frames, split, List.mem_singleton, forall_eq,
      ClientIOSocket.Announceable]
    decide
  · have noHead : packetFormat.announced [4, 0] = none := by decide
    simp [Format.tail, split, noHead]

end EchoServer
