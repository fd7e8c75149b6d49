import EchoServer.ClientObject
import EchoServer.LabelledRun

/-!
# Whether a client tries again

A link that is lost, or that cannot be opened, is to be opened again later.
Two exits of `toConnect` after a failure, and the one for a descriptor that it
takes for an error, set no timer for it.
-/

namespace EchoServer

open LabelledRun

namespace ClientObject

variable {object next : ClientObject}

/-- The link is up, or the timer waits to open it again. -/
def Maintained (object : ClientObject) : Prop :=
  object.LinkUp ∨ object.socket.reConnPending = true

/-- A call of `toConnect` does not give up. -/
def TriesOn (object : ClientObject) : ClientCallback → Prop
  | .reconnectCallback answers =>
      object.socket.reConnPending = true → ¬ answers.GivesUp
  | _ => True

/-- No bufferevent has the descriptor that `toConnect` takes for an error. -/
def ValidBufferevents (object : ClientObject) : Prop :=
  ∀ bufferevent ∈ object.bufferevents, ¬ bufferevent.fd ≤ 0

theorem ValidBufferevents.toConnect (valid : object.ValidBufferevents)
    (answers : SystemAnswers) :
    (object.toConnect answers).1.ValidBufferevents := by
  intro bufferevent member
  have fd := object.toConnect_nFd answers
  simp only [ClientObject.toConnect] at member fd
  split_ifs at member with allocates
  · rcases List.mem_append.mp member with before | new
    · exact valid bufferevent before
    · obtain rfl := List.mem_singleton.mp new
      rw [fd]
      exact allocates.1
  · exact valid bufferevent member

/-- A call of `toConnect` leaves a link to be maintained exactly if it does
not give up. -/
theorem toConnect_maintained_iff (valid : object.ValidBufferevents)
    (idle : object.socket.reConnPending = false) (answers : SystemAnswers) :
    (object.toConnect answers).1.Maintained ↔ ¬ answers.GivesUp := by
  constructor
  · intro maintained givesUp
    obtain ⟨pending, bev, -⟩ := object.toConnect_givesUp givesUp
    rcases maintained with ⟨enabled, current, last, fd, -⟩ | waits
    · obtain ⟨same, invalid⟩ := bev enabled
      rw [same] at last
      rw [toConnect_nFd] at fd
      exact valid current (List.mem_of_getLast? last) (fd ▸ invalid)
    · rw [pending, idle] at waits
      cases waits
  · intro triesOn
    rcases answers.outcome with succeeds | fails | givesUp
    · exact .inl (object.toConnect_connected succeeds).1
    · exact .inr (object.toConnect_retries fails).1
    · exact absurd givesUp triesOn

theorem ValidBufferevents.step (valid : object.ValidBufferevents)
    {host : ByteOrder.Host} {callback : ClientCallback}
    (ran : object.step host callback = .ok next) :
    next.ValidBufferevents := by
  obtain ⟨packages, effect⟩ := step_effect ran
  cases effect with
  | idle => exact valid
  | reconnected answers pending =>
      have firedValid : object.fired.ValidBufferevents := valid
      exact firedValid.toConnect answers
  | lost there disconnects =>
      intro bufferevent member
      rcases List.mem_or_eq_of_mem_set member with before | rfl
      · exact valid bufferevent before
      · have reported := valid _ (List.mem_of_getElem? there)
        exact reported
  | read => exact valid

/-- One callback keeps a link maintained exactly if it does not give up. -/
theorem step_maintained_iff (host : ByteOrder.Host)
    (callback : ClientCallback) (valid : object.ValidBufferevents)
    (maintained : object.Maintained) :
    (∀ next, object.step host callback = .ok next → next.Maintained) ↔
      object.TriesOn callback := by
  have firedValid : object.fired.ValidBufferevents := valid
  constructor
  · intro keeps
    cases callback with
    | reconnectCallback answers =>
        intro pending
        have kept := keeps _ (step_reconnects host answers pending)
        exact (toConnect_maintained_iff firedValid rfl answers).mp kept
    | eventCallback bufferevent events => trivial
    | readCallback read => trivial
  · intro triesOn next ran
    obtain ⟨packages, effect⟩ := step_effect ran
    cases effect with
    | idle => exact maintained
    | reconnected answers pending =>
        exact (toConnect_maintained_iff firedValid rfl answers).mpr
          (triesOn pending)
    | lost => exact .inr rfl
    | read => exact maintained

/-- A client link is up or is tried again, in every state between callbacks,
if and only if no call of `toConnect` gives up. -/
theorem clientRetry_iff (host : ByteOrder.Host)
    (recvBuf : Block maxBufferSize) (answers : SystemAnswers)
    (callbacks : List ClientCallback) :
    HoldsWhereReached (step host) Maintained (opened recvBuf answers)
        callbacks ↔
      ¬ answers.GivesUp ∧
        MeetsAlong (step host) TriesOn (opened recvBuf answers) callbacks := by
  have valid : (new recvBuf).ValidBufferevents := nofun
  have initially := toConnect_maintained_iff valid rfl answers
  have run : (opened recvBuf answers).Maintained →
      (HoldsWhereReached (step host) Maintained (opened recvBuf answers)
          callbacks ↔
        MeetsAlong (step host) TriesOn (opened recvBuf answers) callbacks) :=
    holdsWhereReached_iff
      (fun _ _ _ valid ran => ValidBufferevents.step valid ran)
      (fun _ callback valid maintained =>
        step_maintained_iff host callback valid maintained)
      (valid.toConnect answers)
  constructor
  · intro holds
    have maintained := holds [] callbacks _ rfl rfl
    exact ⟨initially.mp maintained, (run maintained).mp holds⟩
  · rintro ⟨triesOn, meets⟩
    exact (run (initially.mpr triesOn)).mpr meets

/-- There is no memory for a bufferevent. -/
def noBufferevent : SystemAnswers :=
  { SystemAnswers.succeed 4 with bufferevent := false }

/-- After a loss, an attempt that gets no bufferevent is the last one. -/
theorem clientRetry_noBufferevent :
    ¬ HoldsWhereReached (step .little) Maintained
      (opened (Block.zero maxBufferSize) (.succeed 3))
      [.eventCallback 0 ClientIOSocket.eventEof,
        .reconnectCallback noBufferevent] := by
  intro holds
  have maintained := holds _ [] _ (List.append_nil _).symm rfl
  rcases maintained with ⟨enabled, -⟩ | waits
  · exact absurd enabled (by decide +kernel)
  · exact absurd waits (by decide +kernel)

end ClientObject

end EchoServer
