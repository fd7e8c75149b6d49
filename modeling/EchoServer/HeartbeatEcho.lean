import EchoServer.HeartbeatLinks
import EchoServer.HeartbeatReception
import Mathlib.Data.List.Chain

/-!
# Every heartbeat is answered once

Whatever the callbacks of the threads of clients and server, each heartbeat is
answered at most once, the answers come back in the order in which they were
given, and nothing is lost: when nothing is left in the queues, the buffers
and the network, every heartbeat has been answered and every answer has come
back.
-/

namespace EchoServer

open ByteOrder Framing LabelledRun DispatchLoop Buffering

namespace HeartbeatLink

/-- What `onServerRecive` is given with an answer. -/
def received (timestamp : UInt32) : ProtocolHead × Bytes :=
  (heartbeatHead, heartbeatPacket timestamp)

/-- Two heartbeats of a client are a minute apart, in unsigned arithmetic,
unless the first one was sent at time zero. -/
def Paced (earlier later : UInt32) : Prop :=
  earlier = 0 ∨ 60 ≤ later - earlier

/-- A connection on which the heartbeats that are not answered yet are on the
way to the server, `waiting` in the queue of its main thread, and the answers
given at the `times` have come to the client or are on the way, `replies` in
the queue of the server's IO thread. -/
structure Sound (waiting replies : List Bytes) (times : List UInt32)
    (link : HeartbeatLink) : Prop where
  clientUp : link.clientSocket.bev ≠ .null
  clientIdle : link.clientSendBuf.used = 0
  clientSizes : ∀ package ∈ link.clientPackages,
    package.length ≤ maxSendBufSize
  clientShort : link.clientSocket.buffer.nRecvBufLen < heartbeatSize
  serverUp : link.serverSocket.TakesHeartbeats
  serverIdle : link.serverSendBuf.used = 0
  asked : ∃ answered unanswered,
    link.heartbeats = answered ++ unanswered ∧
      answered.length = times.length ∧
      OnTheWay (unanswered.map heartbeatPacket) waiting
        (link.serverSocket.buffer.retained ++ link.upstream ++
          link.clientPackages.flatten)
  told : ∃ told untold, times = told ++ untold ∧
    link.recived = told.map received ∧
    OnTheWay (untold.map heartbeatPacket) link.clientQueue
      (link.clientSocket.buffer.retained ++ link.downstream ++
        replies.flatten)
  paced : link.heartbeats.IsChain Paced
  lastBeat : link.agent.nLastHeartTime = link.heartbeats.getLast?.getD 0

variable {waiting replies : List Bytes} {times : List UInt32}
variable {link : HeartbeatLink}

/-- A fresh connection. -/
theorem connected_sound : connected.Sound [] [] [] where
  clientUp := nofun
  clientIdle := rfl
  clientSizes := nofun
  clientShort := by decide
  serverUp := ⟨rfl, Nat.zero_le _, .inr ⟨rfl, rfl⟩⟩
  serverIdle := rfl
  asked := ⟨[], [], rfl, rfl, .nothing⟩
  told := ⟨[], [], rfl, rfl, .nothing⟩
  paced := .nil
  lastBeat := rfl

namespace Sound

variable (sound : link.Sound waiting replies times)
include sound

theorem tryHeartBeat (host : Host) (now : UInt32) :
    ∃ after, link.tryHeartBeat host now = .ok after ∧
      after.Sound waiting replies times := by
  have frame : AgentServer.heartbeatFrame host now =
      .ok (heartbeatPacket now) := heartbeatFrame_eq host now
  by_cases due : link.agent.nLastHeartTime = 0 ∨
      60 ≤ now - link.agent.nLastHeartTime
  · have beats : link.agent.tryHeartBeat host now =
        .ok ({ nLastHeartTime := now }, some (heartbeatPacket now)) := by
      rw [AgentServer.tryHeartBeat, if_pos due, frame]
      rfl
    refine ⟨_, by rw [HeartbeatLink.tryHeartBeat, beats], ?_⟩
    obtain ⟨answered, unanswered, heartbeats, counted, way⟩ := sound.asked
    refine
      { sound with
        clientSizes := ?_
        asked := ⟨answered, unanswered ++ [now], ?_, counted, ?_⟩
        paced := ?_
        lastBeat := ?_ }
    · intro package isIn
      rcases List.mem_append.mp isIn with before | new
      · exact sound.clientSizes package before
      · rw [List.mem_singleton.mp new, heartbeatPacket_length]
        decide
    · rw [heartbeats, List.append_assoc]
    · have written := way.write (heartbeatPacket now)
      simpa using written
    · apply sound.paced.append (.singleton now)
      intro last isLast next isNext
      obtain rfl : now = next := by simpa using isNext
      have lastBeat := sound.lastBeat
      rw [Option.mem_def.mp isLast] at lastBeat
      rw [lastBeat] at due
      exact due
    · simp
  · have waits : link.agent.tryHeartBeat host now =
        .ok (link.agent, none) := by
      rw [AgentServer.tryHeartBeat, if_neg due]
      rfl
    exact ⟨_, by rw [HeartbeatLink.tryHeartBeat, waits], { sound with }⟩

theorem clientPairCallback (count : Nat) :
    ∃ after, link.clientPairCallback count = .ok after ∧
      after.Sound waiting replies times := by
  have live : ∀ sender ∈ [link.clientSender], sender.Live ∧
      sender.line.passes = true ∧ sender.line.waiting = [] := by
    intro sender isIn
    rw [List.mem_singleton.mp isIn]
    exact ⟨sound.clientUp, rfl,
      (ClientSender.line_waiting_eq_nil _).mpr sound.clientIdle⟩
  have packages : ∀ package ∈
      (link.clientPackages.take count).map (Prod.mk 0),
        package.1 < [link.clientSender].length ∧
          package.2.length ≤ maxSendBufSize := by
    intro package isIn
    obtain ⟨buf, taken, rfl⟩ := List.mem_map.mp isIn
    exact ⟨Nat.one_pos, sound.clientSizes buf (List.mem_of_mem_take taken)⟩
  obtain ⟨after, ran, single, outcome⟩ := run_inOrder
    ClientSender.pairCallback_buffering (fun _ => rfl)
    (fun _ => Nat.zero_le 10) live packages
  obtain ⟨sender, rfl⟩ := List.length_eq_one_iff.mp single
  obtain ⟨sender', isSender, sent, empty⟩ := outcome 0 _ rfl
  obtain rfl : sender = sender' := Option.some.inj isSender
  rw [own_alone] at sent
  have sentEq : sender.passedOn.flatten =
      (link.clientPackages.take count).flatten := sent
  have asTheyAre : packagesOf id
      ((link.clientPackages.take count).map (Prod.mk 0)) =
        (link.clientPackages.take count).map (Prod.mk 0) := List.map_id _
  rw [asTheyAre] at ran
  refine ⟨_, by rw [HeartbeatLink.clientPairCallback, ran], ?_⟩
  obtain ⟨answered, unanswered, heartbeats, counted, way⟩ := sound.asked
  refine
    { sound with
      clientIdle := (ClientSender.line_waiting_eq_nil sender).mp empty
      clientSizes := ?_
      asked := ⟨answered, unanswered, heartbeats, counted, ?_⟩ }
  · exact fun package isIn =>
      sound.clientSizes package (List.mem_of_mem_drop isIn)
  · rw [← List.take_append_drop count link.clientPackages,
      List.flatten_append] at way
    simpa [sentEq] using way

theorem clientReadCallback (host : Host) (amount : Nat) :
    ∃ after, link.clientReadCallback host amount = .ok after ∧
      after.Sound waiting replies times := by
  obtain ⟨told, untold, timesEq, recived, way⟩ := sound.told
  have split : link.clientRead amount ++
      link.downstream.drop (min amount link.clientSocket.asked) =
        link.downstream := List.take_append_drop _ _
  have fits : (link.clientRead amount).length ≤ link.clientSocket.asked := by
    simp only [clientRead, List.length_take]
    omega
  rw [← split, ← List.append_assoc, List.append_assoc] at way
  obtain ⟨after, pieces, received, bev, short, next⟩ :=
    ClientIOSocket.recv_heartbeats host
      (Nat.le_of_lt (Nat.lt_trans sound.clientShort (by decide)))
      (heartbeats_map untold) way fits
  refine ⟨_, by rw [HeartbeatLink.clientReadCallback, received], ?_⟩
  exact
    { sound with
      clientUp := bev.symm ▸ sound.clientUp
      clientShort := short
      told := ⟨told, untold, timesEq, recived, by simpa using next⟩ }

theorem clientMainCallback (host : Host) :
    ∃ after, link.clientMainCallback host = .ok after ∧
      after.Sound waiting replies times := by
  obtain ⟨told, untold, timesEq, recived, way⟩ := sound.told
  rw [HeartbeatLink.clientMainCallback]
  cases queue : link.clientQueue with
  | nil => exact ⟨link, rfl, sound⟩
  | cons buf clientQueue =>
      rw [queue] at way
      obtain ⟨later, untoldEq, later_way⟩ := way.take
      cases untold with
      | nil => cases untoldEq
      | cons first untold =>
          obtain ⟨rfl, rfl⟩ := List.cons.inj untoldEq
          simp only [parseHead_heartbeat]
          refine ⟨_, rfl, ?_⟩
          exact
            { sound with
              told := ⟨told ++ [first], untold, by simp [timesEq],
                by simp [recived, HeartbeatLink.received], later_way⟩ }

/-- A read of the server's socket puts the packets handed out behind those
that wait. -/
theorem serverReadCallback (host : Host) (doWebSocketHandShake : Bytes → Bool)
    (amount : Nat) :
    ∃ after packets,
      link.serverReadCallback host doWebSocketHandShake amount =
          .ok (after, packets) ∧
        after.Sound (waiting ++ packets) replies times ∧
        (headLen ≤ (link.serverRead amount).length →
          after.serverSocket.buffer.nRecvBufLen < heartbeatSize) := by
  obtain ⟨answered, unanswered, heartbeats, counted, way⟩ := sound.asked
  have split : link.serverRead amount ++
      link.upstream.drop (min amount link.serverSocket.asked) =
        link.upstream := List.take_append_drop _ _
  have fits : (link.serverRead amount).length ≤ link.serverSocket.asked := by
    simp only [serverRead, List.length_take]
    omega
  rw [← split, ← List.append_assoc, List.append_assoc] at way
  obtain ⟨after, packets, received, takes, next, short⟩ :=
    ServerIOSocket.recv_heartbeats host doWebSocketHandShake sound.serverUp
      (heartbeats_map unanswered) way fits
  refine ⟨_, packets, by rw [HeartbeatLink.serverReadCallback, received], ?_,
    short⟩
  exact
    { sound with
      serverUp := takes
      asked := ⟨answered, unanswered, heartbeats, counted,
        by simpa using next⟩ }

/-- The first packet that waits for the main thread is a heartbeat. -/
theorem first_heartbeat {buf : Bytes} {rest : List Bytes}
    (queue : waiting = buf :: rest) :
    ∃ timestamp, buf = heartbeatPacket timestamp := by
  subst queue
  obtain ⟨answered, unanswered, -, -, way⟩ := sound.asked
  obtain ⟨later, unansweredEq, -⟩ := way.take
  exact heartbeats_map unanswered buf (by simp [unansweredEq])

end Sound

/-- The IO thread sends the first of the answers that wait. -/
theorem Sound.send {taken left : List Bytes}
    (sound : link.Sound waiting (taken ++ left) times) {sender : ServerSender}
    (empty : sender.sendBuf.used = 0)
    (sent : sender.passedOn.flatten = taken.flatten) :
    (link.withServerSender sender).Sound waiting left times := by
  obtain ⟨told, untold, timesEq, recived, way⟩ := sound.told
  refine
    { sound with
      serverIdle := empty
      told := ⟨told, untold, timesEq, recived, ?_⟩ }
  simpa [withServerSender, sent] using way

/-- The sending side of the server's socket can take packages. -/
theorem Sound.serverSender_live (sound : link.Sound waiting replies times) :
    link.serverSender.Live ∧ link.serverSender.line.passes = true ∧
      link.serverSender.line.waiting = [] :=
  ⟨rfl, decide_eq_true sound.serverUp.connected,
    (ServerSender.line_waiting_eq_nil _).mpr sound.serverIdle⟩

/-- The main thread answers the first packet. -/
theorem Sound.answer {buf : Bytes} {link : HeartbeatLink}
    (sound : link.Sound (buf :: waiting) replies times) (now : UInt32) :
    link.Sound waiting (replies ++ [heartbeatPacket now])
      (times ++ [now]) := by
  obtain ⟨answered, unanswered, heartbeats, counted, way⟩ := sound.asked
  obtain ⟨told, untold, timesEq, recived, toldWay⟩ := sound.told
  obtain ⟨later, unansweredEq, next⟩ := way.take
  cases unanswered with
  | nil => cases unansweredEq
  | cons first unanswered =>
      obtain ⟨-, rfl⟩ := List.cons.inj unansweredEq
      refine
        { sound with
          asked := ⟨answered ++ [first], unanswered, by simp [heartbeats],
            by simp [counted], next⟩
          told := ⟨told, untold ++ [now], by simp [timesEq], recived, ?_⟩ }
      have written := toldWay.write (heartbeatPacket now)
      simpa using written

end HeartbeatLink

/-- What `Server::onClientRecive` does with a heartbeat. -/
theorem onClientRecive_heartbeat (host : Host) (now timestamp : UInt32)
    (server : Server) :
    server.onClientRecive host now heartbeatHead
        (heartbeatPacket timestamp) =
      ({ server with
          nReciveCount := server.nReciveCount + 1
          nSendCount := server.nSendCount + 1 },
        some (heartbeatPacket now)) := by
  have isHeartbeat : ¬ heartbeatHead.xyid ≠ xyidHeartbeat := by decide
  have request := readRequest_eq host (heartbeatPacket timestamp) (by
    rw [heartbeatPacket_length]
    decide)
  simp only [Server.onClientRecive, if_neg isHeartbeat, request, reply_eq]

/-- No package names the object. -/
theorem own_none {Package : Type} {name : Nat}
    {packages : List (Nat × Package)}
    (others : ∀ package ∈ packages, package.1 ≠ name) :
    own name packages = [] := by
  apply List.eq_nil_iff_forall_not_mem.mpr
  intro package isIn
  exact others _ (mem_own.mp isIn) rfl

/-- A package for another object. -/
theorem own_append_other {Package : Type} {name other : Nat}
    (different : other ≠ name) (packages : List (Nat × Package))
    (package : Package) :
    own name (packages ++ [(other, package)]) = own name packages := by
  rw [own_append, own_cons_ne different, own_nil, List.append_nil]

namespace HeartbeatNetwork

/-- A counter of the server as it would be without the timer: the values that
have been printed, and what has been counted since. -/
def total (network : HeartbeatNetwork) (counter : Server → Int) : Int :=
  (network.printed.map counter).foldr (· + ·) 0 + counter network.server

/-- What the timer resets, it has printed. -/
theorem total_onTimer (network : HeartbeatNetwork) {counter : Server → Int}
    (resets : counter network.server.onTimer = 0) :
    network.onTimer.total counter = network.total counter := by
  have associative : Std.Associative fun a b : Int => a + b := ⟨Int.add_assoc⟩
  have last : (network.printed.map counter).foldr (· + ·)
      (0 + counter network.server) =
        (network.printed.map counter).foldr (· + ·) 0 +
          counter network.server := List.foldr_assoc
  rw [Int.zero_add] at last
  simp [total, HeartbeatNetwork.onTimer, resets, last]

/-- All connections are sound, packages name connections and are queued for
the threads that the connections were given to, and the server has counted
its answers. -/
structure Sound (thread : Nat → Nat) (network : HeartbeatNetwork) :
    Prop where
  links : ∀ name (link : HeartbeatLink), network.links[name]? = some link →
    link.Sound (own name network.listPackList)
      (own name (network.ioPackLists (thread name)))
      (own name network.answers)
  named : ∀ package ∈ network.listPackList,
    package.1 < network.links.length
  queued : ∀ ioThread, ∀ package ∈ network.ioPackLists ioThread,
    package.1 < network.links.length ∧ thread package.1 = ioThread ∧
      package.2.length ≤ maxSendBufSize
  counted : network.total Server.nReciveCount = network.answers.length ∧
    network.total Server.nSendCount = network.answers.length

theorem initial_sound (thread : Nat → Nat) (count : Nat) :
    (initial count).Sound thread where
  links := by
    intro name link found
    obtain rfl : link = .connected :=
      List.eq_of_mem_replicate (List.mem_of_getElem? found)
    exact HeartbeatLink.connected_sound
  named := nofun
  queued := nofun
  counted := ⟨rfl, rfl⟩

variable {thread : Nat → Nat} {network : HeartbeatNetwork}

namespace Sound

variable (sound : network.Sound thread)
include sound

/-- What a callback makes of its link concerns no other one. -/
theorem onLink {name : Nat}
    {callback : HeartbeatLink → Except LinkFault HeartbeatLink}
    (keeps : ∀ {waiting replies times} {link : HeartbeatLink},
      link.Sound waiting replies times →
        ∃ after, callback link = .ok after ∧
          after.Sound waiting replies times) :
    ∃ next, network.onLink name callback = .ok next ∧
      next.Sound thread := by
  rw [HeartbeatNetwork.onLink]
  cases found : network.links[name]? with
  | none => exact ⟨network, rfl, sound⟩
  | some link =>
      obtain ⟨after, called, afterSound⟩ :=
        keeps (sound.links name link found)
      simp only [called]
      refine ⟨_, rfl, ?_⟩
      refine
        { links := ?_
          named := by simpa using sound.named
          queued := by simpa using sound.queued
          counted := sound.counted }
      intro other link' found'
      rw [List.getElem?_set] at found'
      split_ifs at found' with same within
      · obtain rfl := Option.some.inj found'
        subst same
        exact afterSound
      · exact sound.links other link' found'

theorem serverReadCallback (host : Host) (doWebSocketHandShake : Bytes → Bool)
    (name amount : Nat) :
    ∃ next, network.serverReadCallback host doWebSocketHandShake name amount =
        .ok next ∧ next.Sound thread := by
  rw [HeartbeatNetwork.serverReadCallback]
  cases found : network.links[name]? with
  | none => exact ⟨network, rfl, sound⟩
  | some link =>
      obtain ⟨after, packets, called, afterSound, -⟩ :=
        (sound.links name link found).serverReadCallback host
          doWebSocketHandShake amount
      simp only [called]
      have within : name < network.links.length :=
        (List.getElem?_eq_some_iff.mp found).1
      refine ⟨_, rfl, ?_⟩
      refine
        { links := ?_
          named := ?_
          queued := by simpa using sound.queued
          counted := sound.counted }
      · intro other link' found'
        rw [List.getElem?_set] at found'
        split_ifs at found' with same
        · obtain rfl := Option.some.inj found'
          subst same
          rw [own_append, own_alone]
          exact afterSound
        · have notNamed : own other (packets.map (Prod.mk name)) = [] := by
            apply own_none
            intro package isIn
            obtain ⟨packet, -, rfl⟩ := List.mem_map.mp isIn
            exact same
          rw [own_append, notNamed, List.append_nil]
          exact sound.links other link' found'
      · intro package isIn
        rw [List.length_set]
        rcases List.mem_append.mp isIn with before | new
        · exact sound.named package before
        · obtain ⟨packet, -, rfl⟩ := List.mem_map.mp new
          exact within

theorem serverPairCallback (host : Host) (now : UInt32) :
    ∃ next, network.serverPairCallback host thread now = .ok next ∧
      next.Sound thread := by
  rw [HeartbeatNetwork.serverPairCallback]
  cases queue : network.listPackList with
  | nil => exact ⟨network, rfl, sound⟩
  | cons package listPackList =>
      obtain ⟨name, buf⟩ := package
      have within : name < network.links.length :=
        sound.named (name, buf) (by simp [queue])
      obtain ⟨buf, rfl⟩ :=
        (sound.links name _ (List.getElem?_eq_getElem within)).first_heartbeat
          (by rw [queue, own_cons_self])
      have answered : network.server.onClientRecive host now heartbeatHead
          (heartbeatPacket buf) =
            ({ network.server with
                nReciveCount := network.server.nReciveCount + 1
                nSendCount := network.server.nSendCount + 1 },
              some (heartbeatPacket now)) :=
        onClientRecive_heartbeat host now buf network.server
      simp only [parseHead_heartbeat, answered]
      refine ⟨_, rfl, ?_⟩
      refine
        { links := ?_
          named := ?_
          queued := ?_
          counted := ?_ }
      · intro other link found
        have before := sound.links other link found
        rw [queue] at before
        by_cases same : name = other
        · subst same
          rw [own_cons_self] at before
          simp only [Function.update_self, own_append, own_cons_self,
            own_nil]
          exact before.answer now
        · rw [own_cons_ne same] at before
          simp only [own_append_other same]
          by_cases sameThread : thread other = thread name
          · rw [sameThread] at before ⊢
            rw [Function.update_self, own_append_other same]
            exact before
          · rw [Function.update_of_ne sameThread]
            exact before
      · intro package isIn
        exact sound.named package (by simp [queue, isIn])
      · intro ioThread package isIn
        simp only [Function.update_apply] at isIn
        split_ifs at isIn with same
        · subst same
          rcases List.mem_append.mp isIn with before | new
          · exact sound.queued _ package before
          · rw [List.mem_singleton.mp new]
            refine ⟨within, rfl, ?_⟩
            rw [heartbeatPacket_length]
            decide
        · exact sound.queued ioThread package isIn
      · obtain ⟨received, sent⟩ := sound.counted
        rw [List.length_append, List.length_singleton, Int.natCast_add,
          ← received]
        refine ⟨(Int.add_assoc ..).symm, ?_⟩
        rw [received, ← sent]
        exact (Int.add_assoc ..).symm

theorem ioPairCallback (ioThread count : Nat) :
    ∃ next, network.ioPairCallback ioThread count = .ok next ∧
      next.Sound thread := by
  have live : ∀ sender ∈ network.links.map HeartbeatLink.serverSender,
      sender.Live ∧ sender.line.passes = true ∧
        sender.line.waiting = [] := by
    intro sender isIn
    obtain ⟨link, linkIn, rfl⟩ := List.mem_map.mp isIn
    obtain ⟨name, found⟩ := List.getElem?_of_mem linkIn
    exact (sound.links name link found).serverSender_live
  have packages : ∀ package ∈ (network.ioPackLists ioThread).take count,
      package.1 < (network.links.map HeartbeatLink.serverSender).length ∧
        package.2.length ≤ maxSendBufSize := by
    intro package isIn
    obtain ⟨within, -, short⟩ :=
      sound.queued ioThread package (List.mem_of_mem_take isIn)
    rw [List.length_map]
    exact ⟨within, short⟩
  obtain ⟨senders, ran, sameLength, outcome⟩ := run_inOrder
    ServerSender.pairCallback_buffering (fun _ => rfl)
    ServerSender.wsLenAdd_le live packages
  rw [List.length_map] at sameLength
  have count_links : (List.zipWith HeartbeatLink.withServerSender
      network.links senders).length = network.links.length := by
    rw [List.length_zipWith, sameLength, Nat.min_self]
  rw [HeartbeatNetwork.ioPairCallback, ran]
  refine ⟨_, rfl, ?_⟩
  refine
    { links := ?_
      named := by simpa only [count_links] using sound.named
      queued := ?_
      counted := sound.counted }
  · intro name after found
    obtain ⟨link, sender, linkFound, senderFound, rfl⟩ :=
      List.getElem?_zipWith_eq_some.mp found
    have before := sound.links name link linkFound
    obtain ⟨sender', found', sent, empty⟩ :=
      outcome name link.serverSender (by rw [List.getElem?_map, linkFound]; rfl)
    obtain rfl : sender = sender' := by
      rw [senderFound] at found'
      exact Option.some.inj found'
    replace sent : sender.passedOn.flatten =
      (own name ((network.ioPackLists ioThread).take count)).flatten := sent
    replace empty := (ServerSender.line_waiting_eq_nil sender).mp empty
    by_cases same : thread name = ioThread
    · subst same
      simp only [Function.update_self]
      apply HeartbeatLink.Sound.send _ empty sent
      rw [← own_append, List.take_append_drop]
      exact before
    · have notNamed :
          own name ((network.ioPackLists ioThread).take count) = [] := by
        apply own_none
        rintro package isIn rfl
        exact same
          (sound.queued ioThread package (List.mem_of_mem_take isIn)).2.1
      simp only [Function.update_of_ne same]
      rw [notNamed] at sent
      exact HeartbeatLink.Sound.send before empty sent
  · intro other package isIn
    simp only [Function.update_apply] at isIn
    rw [count_links]
    split_ifs at isIn with same
    · subst same
      exact sound.queued _ package (List.mem_of_mem_drop isIn)
    · exact sound.queued other package isIn

theorem onTimer : network.onTimer.Sound thread := by
  obtain ⟨received, sent⟩ := sound.counted
  exact
    { sound with
      counted := ⟨(total_onTimer _ rfl).trans received,
        (total_onTimer _ rfl).trans sent⟩ }

theorem step (clientHost serverHost : Host)
    (doWebSocketHandShake : Bytes → Bool) (action : HeartbeatAction) :
    ∃ next, network.step clientHost serverHost doWebSocketHandShake thread
        action = .ok next ∧ next.Sound thread := by
  cases action with
  | tryHeartBeat link now =>
      exact sound.onLink fun isSound => isSound.tryHeartBeat clientHost now
  | clientPairCallback link count =>
      exact sound.onLink fun isSound => isSound.clientPairCallback count
  | serverReadCallback link amount =>
      exact sound.serverReadCallback serverHost doWebSocketHandShake link
        amount
  | serverPairCallback now => exact sound.serverPairCallback serverHost now
  | ioPairCallback ioThread count =>
      exact sound.ioPairCallback ioThread count
  | clientReadCallback link amount =>
      exact sound.onLink fun isSound =>
        isSound.clientReadCallback clientHost amount
  | clientMainCallback link =>
      exact sound.onLink fun isSound => isSound.clientMainCallback clientHost
  | onTimer => exact ⟨_, rfl, sound.onTimer⟩

end Sound

/-- Nothing is left of the heartbeats of a link and of their answers, in the
queues, in the network, or in the buffer of the server's socket. -/
structure Quiet (thread : Nat → Nat) (network : HeartbeatNetwork) (name : Nat)
    (link : HeartbeatLink) : Prop where
  clientPackages : link.clientPackages = []
  upstream : link.upstream = []
  serverBuffer : link.serverSocket.buffer.nRecvBufLen < heartbeatSize
  mainQueue : own name network.listPackList = []
  ioQueue : own name (network.ioPackLists (thread name)) = []
  downstream : link.downstream = []
  clientQueue : link.clientQueue = []

/-- What holds of a link: the calls of `onServerRecive` are those for the first
answers to its heartbeats, in the order in which they were given, and there
are at most as many answers as heartbeats; there are as many of all three
when nothing is left on the way.  Heartbeats are a minute apart. -/
structure Answered (thread : Nat → Nat) (network : HeartbeatNetwork)
    (name : Nat) (link : HeartbeatLink) : Prop where
  inOrder : link.recived <+:
    (own name network.answers).map HeartbeatLink.received
  atMostOnce : (own name network.answers).length ≤ link.heartbeats.length
  allAnswered : network.Quiet thread name link →
    link.recived = (own name network.answers).map HeartbeatLink.received ∧
      (own name network.answers).length = link.heartbeats.length
  paced : link.heartbeats.IsChain HeartbeatLink.Paced

theorem Sound.answered (sound : network.Sound thread) {name : Nat}
    {link : HeartbeatLink} (found : network.links[name]? = some link) :
    network.Answered thread name link := by
  have linkSound := sound.links name link found
  obtain ⟨answered, unanswered, heartbeats, counted, way⟩ := linkSound.asked
  obtain ⟨told, untold, timesEq, recived, toldWay⟩ := linkSound.told
  have arrives : ∀ {timestamps : List UInt32} {stream : Bytes},
      OnTheWay (timestamps.map heartbeatPacket) [] stream →
        stream.length < heartbeatSize → timestamps = [] := by
    intro timestamps stream onTheWay short
    have nothing := onTheWay.arrived (heartbeats_map timestamps).sizes short
    exact List.map_eq_nil_iff.mp nothing
  refine ⟨?_, ?_, ?_, linkSound.paced⟩
  · rw [recived, timesEq, List.map_append]
    exact List.prefix_append _ _
  · rw [← counted, heartbeats, List.length_append]
    exact Nat.le_add_right _ _
  · intro quiet
    rw [quiet.mainQueue, quiet.upstream, quiet.clientPackages] at way
    rw [quiet.ioQueue, quiet.downstream, quiet.clientQueue] at toldWay
    simp only [List.flatten_nil, List.append_nil] at way toldWay
    have serverShort :
        link.serverSocket.buffer.retained.length < heartbeatSize := by
      rw [RecvBuffer.retained_length linkSound.serverUp.within]
      exact quiet.serverBuffer
    have clientShort :
        link.clientSocket.buffer.retained.length < heartbeatSize := by
      rw [RecvBuffer.retained_length
        (Nat.le_of_lt (Nat.lt_trans linkSound.clientShort (by decide)))]
      exact linkSound.clientShort
    obtain rfl := arrives way serverShort
    obtain rfl := arrives toldWay clientShort
    rw [recived, heartbeats, List.append_nil, counted, timesEq]
    simp

end HeartbeatNetwork

end EchoServer
