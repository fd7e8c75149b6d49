import Mathlib.Data.List.Basic

/-!
# Histories of a queue

The operations of a queue in the order in which they take effect.  A history
serves first in, first out if every dequeue answers with the value that has
been in the queue longest, and with nothing exactly when the queue is empty.
-/

namespace EchoServer

/-- An operation that has taken effect. -/
inductive QueueEvent (Value : Type)
  | enqueue (value : Value)
  | dequeue (answer : Option Value)

namespace QueueHistory

variable {Value : Type}

/-- The events lead from one content of the queue to another. -/
def Serves : List Value → List (QueueEvent Value) → List Value → Prop
  | queue, [], final => queue = final
  | queue, .enqueue value :: events, final =>
      Serves (queue ++ [value]) events final
  | queue, .dequeue answer :: events, final =>
      answer = queue.head? ∧ Serves queue.tail events final

/-- The values that were enqueued. -/
def enqueued (events : List (QueueEvent Value)) : List Value :=
  events.filterMap fun
    | .enqueue value => some value
    | .dequeue _ => none

/-- The values that were dequeued. -/
def dequeued (events : List (QueueEvent Value)) : List Value :=
  events.filterMap fun
    | .enqueue _ => none
    | .dequeue answer => answer

variable {queue middle final : List Value}
variable {events more : List (QueueEvent Value)}

theorem Serves.append (first : Serves queue events middle)
    (second : Serves middle more final) :
    Serves queue (events ++ more) final := by
  induction events generalizing queue with
  | nil =>
      obtain rfl : queue = middle := first
      exact second
  | cons event events ih =>
      cases event with
      | enqueue value => exact ih first
      | dequeue answer => exact ⟨first.1, ih first.2⟩

theorem Serves.enqueue (serves : Serves queue events middle)
    (value : Value) :
    Serves queue (events ++ [.enqueue value]) (middle ++ [value]) :=
  serves.append rfl

theorem Serves.dequeue (serves : Serves queue events middle) :
    Serves queue (events ++ [.dequeue middle.head?]) middle.tail :=
  serves.append ⟨rfl, rfl⟩

/-- Nothing is lost, duplicated or reordered. -/
theorem Serves.conservation (serves : Serves queue events final) :
    queue ++ enqueued events = dequeued events ++ final := by
  induction events generalizing queue with
  | nil =>
      obtain rfl : queue = final := serves
      simp [enqueued, dequeued]
  | cons event events ih =>
      cases event with
      | enqueue value =>
          have rest := ih serves
          rw [List.append_assoc] at rest
          exact rest
      | dequeue answer =>
          obtain ⟨rfl, serves⟩ := serves
          have rest := ih serves
          cases queue with
          | nil => exact rest
          | cons value queue => exact congrArg (value :: ·) rest

end QueueHistory

end EchoServer
