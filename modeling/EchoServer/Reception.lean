import EchoServer.LabelledRun
import EchoServer.PacketExtraction

/-!
# Reading a byte stream in pieces

A peer sends a byte stream; every read callback takes some of the bytes that
have arrived, at most as many as `bufferevent_read` is asked for, and runs
`recv` on them.  How many bytes a read finds is chosen by the run, so that the
runs are all the ways of cutting the stream into reads.
-/

namespace EchoServer

open LabelledRun

/-- A socket, the bytes its peer sends and it has not read yet, those it has
read, and the packets handed to `asynRecive`. -/
structure Reception (Socket : Type*) where
  socket : Socket
  incoming : Bytes
  received : Bytes
  asynRecived : List Bytes

namespace Reception

variable {Socket : Type*}

def start (socket : Socket) (incoming : Bytes) : Reception Socket where
  socket := socket
  incoming := incoming
  received := []
  asynRecived := []

/-- The bytes that `bufferevent_read` returns when it is asked for `asked`
bytes and finds `amount`. -/
def read (reception : Reception Socket) (asked amount : Nat) : Bytes :=
  reception.incoming.take (min amount asked)

/-- One read callback: `asked` is the number of bytes the socket asks for,
`recv` what it does with the bytes read. -/
def readCallback (asked : Socket → Nat)
    (recv : Bytes → Socket → Except RecvStop (Int × Socket × List Bytes))
    (reception : Reception Socket) (amount : Nat) :
    Except RecvStop (Reception Socket) :=
  let bytes := reception.read (asked reception.socket) amount
  match recv bytes reception.socket with
  | .error stop => .error stop
  | .ok (_, socket, packets) =>
      .ok
        { socket
          incoming := reception.incoming.drop
            (min amount (asked reception.socket))
          received := reception.received ++ bytes
          asynRecived := reception.asynRecived ++ packets }

variable {asked : Socket → Nat}
variable {recv : Bytes → Socket → Except RecvStop (Int × Socket × List Bytes)}
variable {reception next : Reception Socket}

theorem read_length_le (asks amount : Nat) :
    (reception.read asks amount).length ≤ asks := by
  simp only [read, List.length_take]
  omega

theorem readCallback_eq {amount : Nat} {code : Int} {socket : Socket}
    {packets : List Bytes}
    (received : recv (reception.read (asked reception.socket) amount)
      reception.socket = .ok (code, socket, packets)) :
    readCallback asked recv reception amount =
      .ok
        { socket
          incoming := reception.incoming.drop
            (min amount (asked reception.socket))
          received := reception.received ++
            reception.read (asked reception.socket) amount
          asynRecived := reception.asynRecived ++ packets } := by
  simp [readCallback, received]

/-- A read callback that returns did so from a call of `recv` that does. -/
theorem readCallback_ok {amount : Nat}
    (stepped : readCallback asked recv reception amount = .ok next) :
    ∃ code packets,
      recv (reception.read (asked reception.socket) amount)
          reception.socket = .ok (code, next.socket, packets) ∧
        next.incoming = reception.incoming.drop
          (min amount (asked reception.socket)) ∧
        next.received = reception.received ++
          reception.read (asked reception.socket) amount ∧
        next.asynRecived = reception.asynRecived ++ packets := by
  unfold readCallback at stepped
  simp only at stepped
  split at stepped
  · cases stepped
  · rename_i code socket packets received
    cases stepped
    exact ⟨code, packets, received, rfl, rfl, rfl⟩

/-- What has been read and what is still to come is the stream sent. -/
theorem readCallback_stream {amount : Nat}
    (stepped : readCallback asked recv reception amount = .ok next) :
    next.received ++ next.incoming =
      reception.received ++ reception.incoming := by
  obtain ⟨code, packets, -, incoming, received, -⟩ :=
    readCallback_ok stepped
  rw [incoming, received, List.append_assoc, read, List.take_append_drop]

end Reception

end EchoServer
