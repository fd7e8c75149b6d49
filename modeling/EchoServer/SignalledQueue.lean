import Mathlib.Data.List.Basic
import Mathlib.Tactic.SplitIfs

/-!
# A queue whose consumer is woken through a pipe

A producer pushes an item under a lock, then sends a byte into a pipe.  The
consumer is called while the pipe holds bytes.  It reads some of them, pops
items one by one up to a limit, and sends a byte itself if items are left
behind.  A send may fail when the pipe is full.  However these steps
interleave, no item waits without somebody still to be woken for it.
-/

namespace EchoServer

/-- A pipe that holds at least one byte when it is full. -/
structure Pipe where
  capacity : Nat
  bytes : Nat
  capacity_pos : 0 < capacity

namespace Pipe

def full (pipe : Pipe) : Bool :=
  pipe.capacity ≤ pipe.bytes

/-- A send of one byte, which can fail only when the pipe is full. -/
def send (fails : Bool) (pipe : Pipe) : Pipe :=
  if fails && pipe.full then pipe else { pipe with bytes := pipe.bytes + 1 }

/-- A read of up to `size` bytes. -/
def recv (size count : Nat) (pipe : Pipe) : Pipe :=
  { pipe with bytes := pipe.bytes - min count size }

theorem send_bytes_pos (fails : Bool) (pipe : Pipe) :
    0 < (pipe.send fails).bytes := by
  rw [send]
  split_ifs with refused
  · have full : pipe.full = true := (Bool.and_eq_true _ _ ▸ refused).2
    exact Nat.lt_of_lt_of_le pipe.capacity_pos (of_decide_eq_true full)
  · exact Nat.succ_pos pipe.bytes

end Pipe

/-- Where the consumer stands: outside its callback, in the loop that pops
items, or between the loop and the test whether items are left. -/
inductive Consumer
  | outside
  | popping (count : Int)
  | behindLoop
  deriving DecidableEq

/-- The queue with its pipe, the producers between their push and their send,
the consumer, and all the items ever pushed and popped. -/
structure SignalledQueue (Producer Item : Type) where
  queue : List Item
  pipe : Pipe
  sending : Producer → Bool
  consumer : Consumer
  pushed : List Item
  popped : List Item

namespace SignalledQueue

variable {Producer Item : Type}

def initial (pipe : Pipe) : SignalledQueue Producer Item where
  queue := []
  pipe := pipe
  sending _ := false
  consumer := .outside
  pushed := []
  popped := []

/-- A producer pushes an item, unless it has still to send for the last one. -/
def push [DecidableEq Producer] (producer : Producer) (item : Item)
    (state : SignalledQueue Producer Item) : SignalledQueue Producer Item :=
  if state.sending producer then state
  else
    { state with
      queue := state.queue ++ [item]
      sending := Function.update state.sending producer true
      pushed := state.pushed ++ [item] }

/-- The producer sends its byte. -/
def send [DecidableEq Producer] (producer : Producer) (fails : Bool)
    (state : SignalledQueue Producer Item) : SignalledQueue Producer Item :=
  if state.sending producer then
    { state with
      pipe := state.pipe.send fails
      sending := Function.update state.sending producer false }
  else state

/-- The consumer's callback starts and reads from the pipe. -/
def recv (size count : Nat) (state : SignalledQueue Producer Item) :
    SignalledQueue Producer Item :=
  match state.consumer with
  | .outside =>
      { state with
        pipe := state.pipe.recv size count
        consumer := .popping 0 }
  | _ => state

/-- One round of the consumer's loop `while (count++ <= limit)`. -/
def pop (limit : Int) (state : SignalledQueue Producer Item) :
    SignalledQueue Producer Item :=
  match state.consumer with
  | .popping count =>
      if count ≤ limit then
        match state.queue with
        | [] => { state with consumer := .behindLoop }
        | item :: queue =>
            { state with
              queue
              consumer := .popping (count + 1)
              popped := state.popped ++ [item] }
      else { state with consumer := .behindLoop }
  | _ => state

/-- The consumer sends a byte if items are left, and its callback returns. -/
def resend (fails : Bool) (state : SignalledQueue Producer Item) :
    SignalledQueue Producer Item :=
  match state.consumer with
  | .behindLoop =>
      { state with
        pipe :=
          if state.queue.isEmpty then state.pipe else state.pipe.send fails
        consumer := .outside }
  | _ => state

/-- Somebody will be woken for the items in the queue: there is a byte in the
pipe, a producer has still to send one, or the consumer has still to look. -/
def Signalled (state : SignalledQueue Producer Item) : Prop :=
  state.queue ≠ [] →
    0 < state.pipe.bytes ∨ (∃ producer, state.sending producer = true) ∨
      state.consumer ≠ .outside

/-- Every item pushed has been popped once, in order, or is in the queue. -/
def InOrder (state : SignalledQueue Producer Item) : Prop :=
  state.popped ++ state.queue = state.pushed

/-- The invariant of the queue. -/
structure Live (state : SignalledQueue Producer Item) : Prop where
  signalled : state.Signalled
  inOrder : state.InOrder

theorem initial_live (pipe : Pipe) :
    (initial pipe : SignalledQueue Producer Item).Live where
  signalled nonempty := absurd rfl nonempty
  inOrder := rfl

namespace Live

variable {state : SignalledQueue Producer Item}

theorem push [DecidableEq Producer] (live : state.Live)
    (producer : Producer) (item : Item) : (state.push producer item).Live := by
  unfold SignalledQueue.push
  split_ifs with sending
  · exact live
  · constructor
    · intro _
      exact .inr (.inl ⟨producer, Function.update_self ..⟩)
    · have inOrder : state.popped ++ state.queue = state.pushed := live.inOrder
      simp only [InOrder, ← List.append_assoc, inOrder]

theorem send [DecidableEq Producer] (live : state.Live)
    (producer : Producer) (fails : Bool) : (state.send producer fails).Live := by
  unfold SignalledQueue.send
  split_ifs with sending
  · constructor
    · intro _
      exact .inl (Pipe.send_bytes_pos fails state.pipe)
    · exact live.inOrder
  · exact live

theorem recv (live : state.Live) (size count : Nat) :
    (state.recv size count).Live := by
  unfold SignalledQueue.recv
  split
  · constructor
    · intro _
      exact .inr (.inr Consumer.noConfusion)
    · exact live.inOrder
  · exact live

theorem pop (live : state.Live) (limit : Int) : (state.pop limit).Live := by
  unfold SignalledQueue.pop
  split
  · split
    · split
      · rename_i empty
        exact ⟨fun _ => .inr (.inr Consumer.noConfusion), live.inOrder⟩
      · rename_i item queue nonempty
        constructor
        · intro _
          exact .inr (.inr Consumer.noConfusion)
        · have inOrder : state.popped ++ state.queue = state.pushed :=
            live.inOrder
          rw [nonempty] at inOrder
          rw [InOrder, List.append_assoc]
          exact inOrder
    · exact ⟨fun _ => .inr (.inr Consumer.noConfusion), live.inOrder⟩
  · exact live

theorem resend (live : state.Live) (fails : Bool) :
    (state.resend fails).Live := by
  unfold SignalledQueue.resend
  split
  · constructor
    · intro nonempty
      have left : state.queue.isEmpty = false := by
        rw [Bool.eq_false_iff, ne_eq, List.isEmpty_iff]
        exact nonempty
      simp only [left, Bool.false_eq_true, if_false]
      exact .inl (Pipe.send_bytes_pos fails state.pipe)
    · exact live.inOrder
  · exact live

end Live

end SignalledQueue

end EchoServer
