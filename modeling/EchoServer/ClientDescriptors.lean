import EchoServer.ClientObject
import EchoServer.LabelledRun

/-!
# What a client leaves behind

No exit of `toConnect`, no event, and no retry closes a descriptor or frees a
bufferevent, so a client socket keeps those of all its attempts.
-/

namespace EchoServer

open LabelledRun

namespace ClientObject

variable {object next : ClientObject}

/-- At most one descriptor is open, and at most one bufferevent allocated. -/
structure OwnsAtMostOne (object : ClientObject) : Prop where
  descriptors : object.descriptors.length ≤ 1
  bufferevents : object.bufferevents.length ≤ 1

/-- A call of `toConnect` gets a descriptor only if none has been obtained
before. -/
def ObtainsFirst (object : ClientObject) : ClientCallback → Prop
  | .reconnectCallback answers =>
      object.socket.reConnPending = true → 0 ≤ answers.socket →
        object.descriptors = []
  | _ => True

/-- Every bufferevent has been allocated for a descriptor of its own. -/
def EachForADescriptor (object : ClientObject) : Prop :=
  object.bufferevents.length ≤ object.descriptors.length

theorem SystemAnswers.Allocates.obtained {answers : SystemAnswers}
    (allocates : answers.Allocates) : 0 ≤ answers.socket := by
  by_contra invalid
  exact allocates.2.1 (answers.connectInvalid (Int.not_le.mp invalid))

theorem toConnect_descriptors_length (answers : SystemAnswers) :
    (object.toConnect answers).1.descriptors.length =
      object.descriptors.length + if 0 ≤ answers.socket then 1 else 0 := by
  simp only [toConnect]
  split_ifs <;> simp

theorem EachForADescriptor.toConnect (each : object.EachForADescriptor)
    (answers : SystemAnswers) :
    (object.toConnect answers).1.EachForADescriptor := by
  unfold EachForADescriptor at each ⊢
  rw [toConnect_descriptors_length]
  simp only [ClientObject.toConnect]
  split_ifs with allocates obtained
  · simpa using each
  · exact absurd (SystemAnswers.Allocates.obtained allocates) obtained
  · omega
  · omega

theorem EachForADescriptor.step (each : object.EachForADescriptor)
    {host : ByteOrder.Host} {callback : ClientCallback}
    (ran : object.step host callback = .ok next) :
    next.EachForADescriptor := by
  obtain ⟨packages, effect⟩ := step_effect ran
  cases effect with
  | idle => exact each
  | reconnected answers pending =>
      have firedEach : object.fired.EachForADescriptor := each
      exact firedEach.toConnect answers
  | lost =>
      unfold EachForADescriptor at each ⊢
      rw [List.length_set]
      exact each
  | read => exact each

/-- A call of `toConnect` leaves at most one of each exactly if it gets no
further descriptor. -/
theorem toConnect_ownsAtMostOne_iff (each : object.EachForADescriptor)
    (owns : object.OwnsAtMostOne) (answers : SystemAnswers) :
    (object.toConnect answers).1.OwnsAtMostOne ↔
      (0 ≤ answers.socket → object.descriptors = []) := by
  have length := object.toConnect_descriptors_length answers
  constructor
  · intro after obtained
    have single := after.descriptors
    rw [length, if_pos obtained] at single
    exact List.eq_nil_of_length_eq_zero (by omega)
  · intro first
    have single : (object.toConnect answers).1.descriptors.length ≤ 1 := by
      rw [length]
      split_ifs with obtained
      · rw [first obtained]
        exact Nat.le_refl 1
      · exact owns.descriptors
    have eachAfter := each.toConnect answers
    exact ⟨single, Nat.le_trans eachAfter single⟩

/-- One callback keeps to one of each exactly if it gets no further
descriptor. -/
theorem step_ownsAtMostOne_iff (host : ByteOrder.Host)
    (callback : ClientCallback) (each : object.EachForADescriptor)
    (owns : object.OwnsAtMostOne) :
    (∀ next, object.step host callback = .ok next → next.OwnsAtMostOne) ↔
      object.ObtainsFirst callback := by
  have firedEach : object.fired.EachForADescriptor := each
  have firedOwns : object.fired.OwnsAtMostOne :=
    ⟨owns.descriptors, owns.bufferevents⟩
  constructor
  · intro keeps
    cases callback with
    | reconnectCallback answers =>
        intro pending
        have kept := keeps _ (step_reconnects host answers pending)
        exact (toConnect_ownsAtMostOne_iff firedEach firedOwns answers).mp kept
    | eventCallback bufferevent events => trivial
    | readCallback read => trivial
  · intro first next ran
    obtain ⟨packages, effect⟩ := step_effect ran
    cases effect with
    | idle => exact owns
    | reconnected answers pending =>
        exact (toConnect_ownsAtMostOne_iff firedEach firedOwns answers).mpr
          (first pending)
    | lost =>
        refine ⟨owns.descriptors, ?_⟩
        rw [List.length_set]
        exact owns.bufferevents
    | read => exact ⟨owns.descriptors, owns.bufferevents⟩

theorem new_ownsAtMostOne (recvBuf : Block maxBufferSize) :
    (new recvBuf).OwnsAtMostOne :=
  ⟨Nat.zero_le 1, Nat.zero_le 1⟩

/-- A client socket owns at most one descriptor and one bufferevent, in every
state between callbacks, if and only if at most one call of `toConnect` gets a
descriptor. -/
theorem clientDescriptors_iff (host : ByteOrder.Host)
    (recvBuf : Block maxBufferSize) (answers : SystemAnswers)
    (callbacks : List ClientCallback) :
    HoldsWhereReached (step host) OwnsAtMostOne (opened recvBuf answers)
        callbacks ↔
      MeetsAlong (step host) ObtainsFirst (opened recvBuf answers)
        callbacks := by
  have each : (new recvBuf).EachForADescriptor := Nat.le_refl 0
  apply holdsWhereReached_iff
  · exact fun _ _ _ each ran => EachForADescriptor.step each ran
  · exact fun _ callback each owns =>
      step_ownsAtMostOne_iff host callback each owns
  · exact each.toConnect answers
  · apply (toConnect_ownsAtMostOne_iff each (new_ownsAtMostOne recvBuf)
      answers).mpr
    exact fun _ => rfl

/-- A connection that is lost and opened again. -/
def lostAndOpened : List ClientCallback :=
  [.eventCallback 0 ClientIOSocket.eventEof, .reconnectCallback (.succeed 4)]

/-- The first descriptor and its bufferevent stay with the second. -/
theorem clientDescriptors_lostAndOpened :
    ¬ HoldsWhereReached (step .little) OwnsAtMostOne
      (opened (Block.zero maxBufferSize) (.succeed 3)) lostAndOpened := by
  intro holds
  have owns := holds _ [] _ (List.append_nil _).symm rfl
  exact absurd owns.descriptors (by decide +kernel)

end ClientObject

end EchoServer
