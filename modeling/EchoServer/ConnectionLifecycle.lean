import Mathlib.Tactic.Common

/-!
# The lifecycle of one connection behind a queue

A connection is announced by an `opened` event, brings messages, and is lost
any number of times.  Its events wait in a queue.  Whoever takes them serves
the connection by an agent from the first event to the first loss, and calls a
handler.  The handler is called in order: once for the opening, then for the
messages as they were sent, and last, at most once, for the closing.
-/

namespace EchoServer

namespace ConnectionLifecycle

/-- What waits in the queue. -/
inductive Event (Message : Type*)
  | opened
  | message (content : Message)
  | closed

/-- The calls of the handler. -/
inductive Call (Agent Message : Type*)
  | onOpen (agent : Agent)
  | onMessage (agent : Agent) (content : Message)
  | onClose (agent : Agent)

/-- A connection: whether it has been announced, the events in the queue, the
messages sent so far, the agent that serves it, and the calls made. -/
structure Connection (Agent Message : Type*) where
  created : Bool
  queued : List (Event Message)
  sent : List Message
  agent : Option Agent
  calls : List (Call Agent Message)

variable {Agent Message : Type*}

/-- The messages among some events. -/
def messages (events : List (Event Message)) : List Message :=
  events.filterMap fun
    | .message content => some content
    | _ => none

@[simp]
theorem messages_nil : messages ([] : List (Event Message)) = [] :=
  rfl

@[simp]
theorem messages_append (first second : List (Event Message)) :
    messages (first ++ second) = messages first ++ messages second :=
  List.filterMap_append

@[simp]
theorem messages_opened (events : List (Event Message)) :
    messages (.opened :: events) = messages events :=
  rfl

@[simp]
theorem messages_message (content : Message)
    (events : List (Event Message)) :
    messages (.message content :: events) = content :: messages events :=
  rfl

@[simp]
theorem messages_closed (events : List (Event Message)) :
    messages (.closed :: events) = messages events :=
  rfl

namespace Connection

/-- A connection that does not exist yet. -/
def initial : Connection Agent Message where
  created := false
  queued := []
  sent := []
  agent := none
  calls := []

end Connection

/-- What can happen to a connection. -/
inductive Step :
    Connection Agent Message → Connection Agent Message → Prop
  | create (connection : Connection Agent Message)
      (new : connection.created = false) :
      Step connection
        { connection with
          created := true
          queued := connection.queued ++ [.opened] }
  | send (connection : Connection Agent Message) (content : Message)
      (created : connection.created = true) :
      Step connection
        { connection with
          queued := connection.queued ++ [.message content]
          sent := connection.sent ++ [content] }
  | lose (connection : Connection Agent Message)
      (created : connection.created = true) :
      Step connection
        { connection with queued := connection.queued ++ [.closed] }
  | serve {connection : Connection Agent Message}
      {queued : List (Event Message)} (agent : Agent)
      (head : connection.queued = .opened :: queued)
      (unserved : connection.agent = none) :
      Step connection
        { connection with
          queued
          agent := some agent
          calls := connection.calls ++ [.onOpen agent] }
  | receive {connection : Connection Agent Message}
      {queued : List (Event Message)} {agent : Agent} {content : Message}
      (head : connection.queued = .message content :: queued)
      (served : connection.agent = some agent) :
      Step connection
        { connection with
          queued
          calls := connection.calls ++ [.onMessage agent content] }
  | close {connection : Connection Agent Message}
      {queued : List (Event Message)} {agent : Agent}
      (head : connection.queued = .closed :: queued)
      (served : connection.agent = some agent) :
      Step connection
        { connection with
          queued
          agent := none
          calls := connection.calls ++ [.onClose agent] }
  | closeAgain {connection : Connection Agent Message}
      {queued : List (Event Message)}
      (head : connection.queued = .closed :: queued)
      (unserved : connection.agent = none) :
      Step connection { connection with queued }

/-- The calls for a connection served by an agent, with the messages handed
over so far. -/
def servedCalls (agent : Agent) (contents : List Message) :
    List (Call Agent Message) :=
  .onOpen agent :: contents.map (.onMessage agent)

@[simp]
theorem servedCalls_append (agent : Agent) (contents : List Message)
    (content : Message) :
    servedCalls agent (contents ++ [content]) =
      servedCalls agent contents ++ [.onMessage agent content] := by
  simp [servedCalls]

/-- How far a connection has come.  While it is served, the messages handed
over and those that wait in the queue are the ones sent. -/
inductive InOrder (connection : Connection Agent Message) : Prop
  | absent (initial : connection = .initial)
  | waiting {queued : List (Event Message)}
      (created : connection.created = true)
      (head : connection.queued = .opened :: queued)
      (once : .opened ∉ queued)
      (complete : messages queued = connection.sent)
      (unserved : connection.agent = none)
      (calls : connection.calls = [])
  | served (agent : Agent) (contents : List Message)
      (created : connection.created = true)
      (once : .opened ∉ connection.queued)
      (complete : contents ++ messages connection.queued = connection.sent)
      (served : connection.agent = some agent)
      (calls : connection.calls = servedCalls agent contents)
  | closed (agent : Agent) (contents : List Message)
      (created : connection.created = true)
      (once : .opened ∉ connection.queued)
      (handed : contents <+: connection.sent)
      (unserved : connection.agent = none)
      (calls : connection.calls =
        servedCalls agent contents ++ [.onClose agent])

section Step

variable {connection : Connection Agent Message}

theorem InOrder.send (order : InOrder connection) (content : Message)
    (created : connection.created = true) :
    InOrder
      { connection with
        queued := connection.queued ++ [.message content]
        sent := connection.sent ++ [content] } := by
  cases order with
  | absent initial =>
      rw [initial] at created
      cases created
  | @waiting queued _ head once complete unserved calls =>
      have grown : connection.queued ++ [.message content] =
          .opened :: (queued ++ [.message content]) := by simp [head]
      refine .waiting created grown (by simpa using once) ?_ unserved calls
      simp [complete]
  | served agent contents _ once complete served calls =>
      refine .served agent contents created (by simpa using once) ?_ served
        calls
      simp [← complete]
  | closed agent contents _ once handed unserved calls =>
      refine .closed agent contents created (by simpa using once) ?_ unserved
        calls
      exact handed.trans (List.prefix_append _ _)

theorem InOrder.lose (order : InOrder connection)
    (created : connection.created = true) :
    InOrder
      { connection with queued := connection.queued ++ [.closed] } := by
  cases order with
  | absent initial =>
      rw [initial] at created
      cases created
  | @waiting queued _ head once complete unserved calls =>
      have grown : connection.queued ++ [.closed] =
          .opened :: (queued ++ [.closed]) := by simp [head]
      refine .waiting created grown (by simpa using once) ?_ unserved calls
      simpa using complete
  | served agent contents _ once complete served calls =>
      refine .served agent contents created (by simpa using once) ?_ served
        calls
      simpa using complete
  | closed agent contents _ once handed unserved calls =>
      exact .closed agent contents created (by simpa using once) handed
        unserved calls

theorem InOrder.serve (order : InOrder connection)
    {queued : List (Event Message)} (agent : Agent)
    (head : connection.queued = .opened :: queued) :
    InOrder
      { connection with
        queued
        agent := some agent
        calls := connection.calls ++ [.onOpen agent] } := by
  cases order with
  | absent initial =>
      rw [initial] at head
      cases head
  | waiting created first once complete unserved calls =>
      obtain ⟨-, rfl⟩ := List.cons.inj (first.symm.trans head)
      refine .served agent [] created once complete rfl ?_
      simp [calls, servedCalls]
  | served _ _ _ once => exact absurd (head ▸ List.mem_cons_self) once
  | closed _ _ _ once => exact absurd (head ▸ List.mem_cons_self) once

theorem InOrder.receive (order : InOrder connection)
    {queued : List (Event Message)} {agent : Agent} {content : Message}
    (head : connection.queued = .message content :: queued)
    (served : connection.agent = some agent) :
    InOrder
      { connection with
        queued
        calls := connection.calls ++ [.onMessage agent content] } := by
  cases order with
  | absent initial =>
      rw [initial] at head
      cases head
  | waiting _ first =>
      cases first.symm.trans head
  | served current contents created once complete servedBy calls =>
      obtain rfl := Option.some.inj (servedBy.symm.trans served)
      rw [head] at once complete
      refine .served current (contents ++ [content]) created
        (List.not_mem_of_not_mem_cons once) ?_ served ?_
      · rw [← complete]
        exact List.append_assoc contents [content] (messages queued)
      · simp [calls]
  | closed _ _ _ _ _ unserved =>
      rw [unserved] at served
      cases served

theorem InOrder.close (order : InOrder connection)
    {queued : List (Event Message)} {agent : Agent}
    (head : connection.queued = .closed :: queued)
    (served : connection.agent = some agent) :
    InOrder
      { connection with
        queued
        agent := none
        calls := connection.calls ++ [.onClose agent] } := by
  cases order with
  | absent initial =>
      rw [initial] at head
      cases head
  | waiting _ first =>
      cases first.symm.trans head
  | served current contents created once complete servedBy calls =>
      obtain rfl := Option.some.inj (servedBy.symm.trans served)
      rw [head] at once
      refine .closed current contents created
        (List.not_mem_of_not_mem_cons once) ?_ rfl ?_
      · exact ⟨_, complete⟩
      · simp [calls]
  | closed _ _ _ _ _ unserved =>
      rw [unserved] at served
      cases served

theorem InOrder.closeAgain (order : InOrder connection)
    {queued : List (Event Message)}
    (head : connection.queued = .closed :: queued)
    (unserved : connection.agent = none) :
    InOrder { connection with queued } := by
  cases order with
  | absent initial =>
      rw [initial] at head
      cases head
  | waiting _ first =>
      cases first.symm.trans head
  | served _ _ _ _ _ served =>
      rw [unserved] at served
      cases served
  | closed agent contents created once handed _ calls =>
      rw [head] at once
      exact .closed agent contents created
        (List.not_mem_of_not_mem_cons once) handed unserved calls

/-- Every step keeps a connection in order. -/
theorem InOrder.step {next : Connection Agent Message}
    (order : InOrder connection) (step : Step connection next) :
    InOrder next := by
  cases step with
  | create new =>
      cases order with
      | absent initial =>
          subst initial
          exact .waiting rfl rfl (by simp) rfl rfl rfl
      | waiting created => simp [new] at created
      | served _ _ created => simp [new] at created
      | closed _ _ created => simp [new] at created
  | send content created => exact order.send content created
  | lose created => exact order.lose created
  | serve agent head => exact order.serve agent head
  | receive head served => exact order.receive head served
  | close head served => exact order.close head served
  | closeAgain head unserved => exact order.closeAgain head unserved

/-- A connection that is served has no `opened` event left in the queue. -/
theorem InOrder.opened_unserved (order : InOrder connection)
    {queued : List (Event Message)}
    (head : connection.queued = .opened :: queued) :
    connection.agent = none := by
  cases order with
  | absent initial =>
      rw [initial]
      rfl
  | waiting _ _ _ _ unserved => exact unserved
  | served _ _ _ once => exact absurd (head ▸ List.mem_cons_self) once
  | closed _ _ _ _ _ unserved => exact unserved

/-- The calls of a connection in order: none, or the opening, messages from
the beginning of those sent, and at most one closing. -/
theorem InOrder.calls_eq (order : InOrder connection) :
    connection.calls = [] ∨
      ∃ agent contents closing,
        connection.calls = servedCalls agent contents ++ closing ∧
          (closing = [] ∨ closing = [.onClose agent]) ∧
          contents <+: connection.sent := by
  cases order with
  | absent initial =>
      rw [initial]
      exact .inl rfl
  | waiting _ _ _ _ _ calls => exact .inl calls
  | served agent contents _ _ complete _ calls =>
      refine .inr ⟨agent, contents, [], ?_, .inl rfl, ⟨_, complete⟩⟩
      rw [calls, List.append_nil]
  | closed agent contents _ _ handed _ calls =>
      exact .inr ⟨agent, contents, [.onClose agent], calls, .inr rfl, handed⟩

end Step

end ConnectionLifecycle

end EchoServer
