import EchoServer.SendPath
import EchoServer.StreamParsing
import EchoServer.WebSocketEncoding

/-!
# What the peer of a websocket receives

`pairCallback` collects the packages for a socket in the send buffer, and each
time that the buffer is sent, its bytes go into a frame of their own.  The
buffer is short enough that the length form which `sendWebSocketBuff` spells
wrongly is never used.  So whatever has arrived at the peer, it parses frames
there whose payloads are whole packages, in their order.
-/

namespace EchoServer

namespace WebSocketProtocol

open StreamParsing

section More

variable {bytes rest : Bytes} (more : Bytes)

theorem splitOff_more {count : Nat}
    {front : { front : Bytes // front.length = count }}
    (split : splitOff count bytes = some (front, rest)) :
    splitOff count (bytes ++ more) = some (front, rest ++ more) := by
  unfold splitOff at split
  split at split
  · rename_i enough
    cases split
    have longer : count ≤ (bytes ++ more).length := by
      rw [List.length_append]
      exact Nat.le_add_right_of_le enough
    simp only [splitOff, longer, dif_pos, List.take_append_of_le_length enough,
      List.drop_append_of_le_length enough]
  · cases split

theorem parseNumber_more {width number : Nat}
    (parsed : parseNumber width bytes = some (number, rest)) :
    parseNumber width (bytes ++ more) = some (number, rest ++ more) := by
  obtain ⟨⟨front, behind⟩, split, same⟩ := Option.map_eq_some_iff.mp parsed
  cases same
  rw [parseNumber, splitOff_more more split]
  rfl

theorem parseLength_more {second : UInt8} {length : Nat}
    (parsed : parseLength second bytes = some (length, rest)) :
    parseLength second (bytes ++ more) = some (length, rest ++ more) := by
  unfold parseLength at parsed ⊢
  dsimp only at parsed ⊢
  split_ifs at parsed ⊢
  · cases parsed
    rfl
  all_goals
    obtain ⟨⟨number, behind⟩, numberParsed, checked⟩ :=
      Option.bind_eq_some_iff.mp parsed
    rw [parseNumber_more more numberParsed]
    dsimp only [bind, Option.bind] at checked ⊢
    split_ifs at checked ⊢
    cases checked
    rfl

theorem parseKey_more {masked : Bool} {maskingKey : Option MaskingKey}
    (parsed : parseKey masked bytes = some (maskingKey, rest)) :
    parseKey masked (bytes ++ more) = some (maskingKey, rest ++ more) := by
  cases masked with
  | false =>
      cases parsed
      rfl
  | true =>
      obtain ⟨⟨key, behind⟩, split, same⟩ := Option.map_eq_some_iff.mp parsed
      cases same
      rw [parseKey, if_pos rfl, splitOff_more more split]
      rfl

/-- More bytes change nothing in a frame that has been parsed. -/
theorem parse_more {frame : Frame}
    (parsed : parse bytes = some (frame, rest)) :
    parse (bytes ++ more) = some (frame, rest ++ more) := by
  match bytes, parsed with
  | first :: second :: bytes, parsed =>
      rw [parse] at parsed
      simp only [List.cons_append, parse]
      split_ifs at parsed ⊢
      obtain ⟨⟨length, behindLength⟩, lengthParsed, parsed⟩ :=
        Option.bind_eq_some_iff.mp parsed
      obtain ⟨⟨maskingKey, behindKey⟩, keyParsed, parsed⟩ :=
        Option.bind_eq_some_iff.mp parsed
      obtain ⟨⟨payload, behind⟩, split, parsed⟩ :=
        Option.bind_eq_some_iff.mp parsed
      cases parsed
      simp only [bind, Option.bind, parseLength_more more lengthParsed,
        parseKey_more more keyParsed, splitOff_more more split]

end More

/-- Frames can be parsed while they arrive. -/
theorem parse_incremental :
    Incremental Frame.encode parse
      (fun frame => frame.payload.length < 2 ^ 63) where
  nothing := rfl
  front frame fits rest := parse_encode frame rest fits
  more _ _ _ parsed more := parse_more more parsed

end WebSocketProtocol

open ByteOrder DispatchLoop FaultingComputation WebSocketProtocol
open StreamParsing

namespace ServerSender

/-- A live connected websocket. -/
structure OpenWebSocket (sender : ServerSender) : Prop where
  live : sender.destroyed = false
  connected : sender.status = .connected
  upgraded : ∃ tmpBuf, sender.nWebSocketFlag = .isWebSocket tmpBuf

/-- What `toSend` gives to the bufferevent of a websocket, for the calls so
far. -/
def wire (host : Host) (sender : ServerSender) : Bytes :=
  (sender.passedOn.flatMap fun buf =>
    (sendWebSocketBuff host true sender.nWebSocketFlag buf
      buf.length).written).flatten

/-- The calls of `toSend` have been given the packages of one group each, and
the packages behind the groups wait. -/
structure Grouped (packages : List Bytes) (sender : ServerSender) : Prop where
  isOpen : sender.OpenWebSocket
  bounded : ∀ buf ∈ sender.passedOn, buf.length < maxBufferSize
  groups : ∃ (groups : List (List Bytes)) (waiting : List Bytes),
    packages = groups.flatten ++ waiting ∧
      sender.passedOn = groups.map List.flatten ∧
      sender.sendBuf.contents = waiting.flatten

namespace Grouped

variable {sender sender' : ServerSender} {packages : List Bytes} {buf : Bytes}

/-- A package that `expandSendBuf` accepts waits behind the others. -/
theorem expandSendBuf (grouped : sender.Grouped packages)
    (within : ¬ sender.line.Wraps buf)
    (expanded : sender.expandSendBuf buf = .ok (some sender')) :
    sender'.Grouped (packages ++ [buf]) := by
  by_cases fits : sender.line.Fits buf
  · obtain ⟨after, expandedTo, lineEq, -⟩ := expandSendBuf_fits within fits
    obtain rfl := Option.some.inj
      (Except.ok.inj (expandedTo.symm.trans expanded))
    have contents : after.sendBuf.contents = sender.sendBuf.contents ++ buf :=
      congrArg Line.waiting lineEq
    obtain ⟨groups, waiting, packagesEq, passedOn, waits⟩ := grouped.groups
    rw [ServerSender.expandSendBuf] at expanded
    split at expanded <;> cases expanded
    refine ⟨⟨grouped.isOpen.live, grouped.isOpen.connected,
      grouped.isOpen.upgraded⟩, grouped.bounded, groups, waiting ++ [buf], ?_,
      passedOn, ?_⟩
    · rw [packagesEq, List.append_assoc]
    · rw [contents, waits, List.flatten_append, List.flatten_singleton]
  · rw [expandSendBuf_full within fits] at expanded
    cases expanded

/-- What waits becomes a group. -/
theorem consumeSendBuf (grouped : sender.Grouped packages) :
    sender.consumeSendBuf.Grouped packages := by
  rw [ServerSender.consumeSendBuf]
  split_ifs with hadData
  · obtain ⟨groups, waiting, packagesEq, passedOn, waits⟩ := grouped.groups
    have connected := grouped.isOpen.connected
    simp only [toSend, connected, ne_eq, not_true_eq_false, if_false]
    refine ⟨⟨grouped.isOpen.live, rfl, grouped.isOpen.upgraded⟩, ?_,
      groups ++ [waiting], [], ?_, ?_, ?_⟩
    · intro passed isIn
      rcases List.mem_append.mp isIn with before | new
      · exact grouped.bounded passed before
      · rw [List.mem_singleton.mp new, SendBuffer.contents_length]
        exact sender.sendBuf.used_lt
    · rw [packagesEq, List.flatten_append, List.flatten_singleton,
        List.append_nil]
    · rw [List.map_append, List.map_singleton, passedOn, waits]
    · exact SendBuffer.contents_clear _
  · exact grouped

/-- A package comes behind the others, whether or not what waits has to be
sent before. -/
theorem deal (grouped : sender.Grouped packages)
    (within : ¬ sender.line.Wraps buf) (small : sender.line.Small buf)
    {listed : Bool}
    (dealt : ServerSender.deal (.sendBuf buf) sender =
      .ok (sender', listed)) :
    sender'.Grouped (packages ++ [buf]) := by
  obtain ⟨expansion, expanded, dealt⟩ := bind_ok dealt
  cases expansion with
  | some after =>
      cases dealt
      exact grouped.expandSendBuf within expanded
  | none =>
      obtain ⟨emptied, consumed, dealt⟩ := bind_ok dealt
      obtain rfl : sender.consumeSendBuf = emptied := Except.ok.inj consumed
      have lineEq := sender.consumeSendBuf_line
      have fits : sender.consumeSendBuf.line.Fits buf := by
        rw [lineEq, Line.fits_of_small rfl]
        exact small
      have stillWithin : ¬ sender.consumeSendBuf.line.Wraps buf := by
        rw [lineEq]
        simp only [Line.Wraps, Line.flush, List.length_nil] at within ⊢
        omega
      obtain ⟨again, expandedAgain, dealt⟩ := bind_ok dealt
      obtain ⟨after, expandedTo, -⟩ := expandSendBuf_fits stillWithin fits
      obtain rfl := Except.ok.inj (expandedTo.symm.trans expandedAgain)
      cases dealt
      exact grouped.consumeSendBuf.expandSendBuf stillWithin expandedTo

/-- Any number of packages that are not too long. -/
theorem serveAll (grouped : sender.Grouped packages) (name : Nat)
    {bufs : List Bytes} (short : ∀ buf ∈ bufs, buf.length ≤ maxSendBufSize)
    {listed listed' : Bool}
    (served : pairCallback.serveAll name (bufs.map .sendBuf)
      (sender, listed) = .ok (sender', listed')) :
    sender'.Grouped (packages ++ bufs) := by
  induction bufs generalizing sender packages listed with
  | nil =>
      cases served
      rw [List.append_nil]
      exact grouped
  | cons buf bufs ih =>
      obtain ⟨⟨middle, middleListed⟩, first, rest⟩ := bind_ok served
      have usable := pairCallback_usable.mpr grouped.isOpen.live
      rw [serveOne, if_pos usable] at first
      cases dealt : pairCallback.deal (.sendBuf buf) sender with
      | error fault =>
          rw [dealt] at first
          cases first
      | ok outcome =>
          rw [dealt] at first
          cases first
          have isShort := short buf List.mem_cons_self
          have reserve := sender.wsLenAdd_le
          have used := sender.sendBuf.used_lt
          have within : ¬ sender.line.Wraps buf := by
            rw [Line.Wraps, line_waiting_length]
            simp only [line, maxBufferSize, maxSendBufSize] at *
            omega
          have small : sender.line.Small buf := by
            simp only [Line.Small, line, maxBufferSize, maxSendBufSize] at *
            omega
          have next := ih (grouped.deal within small dealt)
            (fun other isIn => short other (List.mem_cons_of_mem buf isIn))
            rest
          rw [List.append_assoc] at next
          exact next

/-- A visit sends what waits. -/
theorem visit (grouped : sender.Grouped packages)
    (visited : pairCallback.visit sender = .ok sender') :
    sender'.Grouped packages := by
  change collector.empty sender = .ok sender' at visited
  rw [Collector.empty] at visited
  split_ifs at visited
  · cases visited
    exact grouped.consumeSendBuf
  · cases visited
    exact grouped

/-- A batch. -/
theorem run {batch : List (Nat × Bytes)} {sockets after : List ServerSender}
    {before : Nat → List Bytes}
    (grouped : ∀ (name : Nat) (sender : ServerSender),
      sockets[name]? = some sender → sender.Grouped (before name))
    (short : ∀ package ∈ batch, package.2.length ≤ maxSendBufSize)
    (ran : pairCallback.run (Buffering.packagesOf .sendBuf batch) sockets =
      .ok after) (name : Nat) (sender : ServerSender)
    (found : after[name]? = some sender) :
    sender.Grouped (before name ++ own name batch) := by
  obtain ⟨desk, dealt, visited⟩ := bind_ok ran
  refine visitAll_keeps
    (fun name sender => Grouped (before name ++ own name batch) sender)
    (fun _ _ _ isGrouped => isGrouped.visit) visited ?_ found
  intro name sender found
  have sizes : AllHave (fun _ => True) sockets.length desk.objects :=
    dealAll_allHave (fun _ _ _ _ _ _ => trivial) dealt
      ⟨rfl, fun _ _ => trivial⟩
  have within : name < sockets.length :=
    sizes.1 ▸ (List.getElem?_eq_some_iff.mp found).1
  have foundBefore := List.getElem?_eq_getElem within
  obtain ⟨served, foundServed, serves⟩ := dealAll_project dealt foundBefore
  obtain rfl := Option.some.inj (found.symm.trans foundServed)
  rw [Buffering.packagesOf, own_map] at serves
  refine (grouped name _ foundBefore).serveAll name ?_ serves
  intro buf isIn
  exact short (name, buf) (mem_own.mp isIn)

/-- Any number of batches. -/
theorem runAll {batches : List (List (Nat × Bytes))}
    {sockets after : List ServerSender} {before : Nat → List Bytes}
    (grouped : ∀ (name : Nat) (sender : ServerSender),
      sockets[name]? = some sender → sender.Grouped (before name))
    (short : ∀ batch ∈ batches, ∀ package ∈ batch,
      package.2.length ≤ maxSendBufSize)
    (ran : pairCallback.runAll
      (batches.map (Buffering.packagesOf .sendBuf)) sockets = .ok after)
    (name : Nat) (sender : ServerSender) (found : after[name]? = some sender) :
    sender.Grouped (before name ++ own name batches.flatten) := by
  induction batches generalizing sockets before with
  | nil =>
      cases ran
      rw [List.flatten_nil, own_nil, List.append_nil]
      exact grouped name sender found
  | cons batch batches ih =>
      obtain ⟨middle, first, rest⟩ := bind_ok ran
      have isGrouped := Grouped.run grouped (short batch List.mem_cons_self)
        first
      have all := ih isGrouped
        (fun later isIn => short later (List.mem_cons_of_mem batch isIn)) rest
      rw [List.append_assoc, ← own_append] at all
      exact all

end Grouped

theorem runAll_length {batches : List (List (Nat × SocketPackage))}
    {sockets after : List ServerSender}
    (ran : pairCallback.runAll batches sockets = .ok after) :
    after.length = sockets.length := by
  induction batches generalizing sockets with
  | nil =>
      cases ran
      rfl
  | cons batch batches ih =>
      obtain ⟨middle, first, rest⟩ := bind_ok ran
      have kept : AllHave (fun _ => True) sockets.length middle :=
        run_allHave (fun _ _ _ _ _ _ => trivial) (fun _ _ _ _ => trivial)
          first fun _ _ => trivial
      rw [ih rest, kept.1]

/-- The frame that a call of `toSend` gives to the bufferevent. -/
def frame (buf : Bytes) : Frame where
  fin := true
  opcode := ⟨2, by decide⟩
  maskingKey := none
  payload := buf

/-- The longest form apart, the length is spelled alike on all hosts. -/
theorem sendWebSocketBuff_short (host : Host)
    (tmpBuf : Block maxWsTmpBufferSize) {buf : Bytes}
    (short : buf.length < maxBufferSize) :
    (sendWebSocketBuff host true (.isWebSocket tmpBuf) buf
      buf.length).written = [(frame buf).encode] := by
  have notLong : buf.length < 65536 := Nat.lt_trans short (by decide)
  have spelled : bodyLength host buf.length =
      bodyLength .little buf.length := by
    simp only [bodyLength, Nat.not_le.mpr notLong, if_false,
      hostBytes_hostToNetwork]
  have written := encode_of_short tmpBuf (Nat.le_refl buf.length) notLong
  rw [List.take_length] at written
  rw [sendWebSocketBuff, spelled]
  exact written

/-- What is sent is a frame for each group of packages. -/
theorem Grouped.wire_eq {sender : ServerSender} {packages : List Bytes}
    (grouped : sender.Grouped packages) (host : Host) :
    sender.wire host = (sender.passedOn.map frame).flatMap Frame.encode := by
  obtain ⟨tmpBuf, upgraded⟩ := grouped.isOpen.upgraded
  have bounded := grouped.bounded
  rw [wire, upgraded, List.flatMap_map]
  generalize sender.passedOn = passedOn at bounded ⊢
  induction passedOn with
  | nil => rfl
  | cons buf passedOn ih =>
      have first := sendWebSocketBuff_short host tmpBuf
        (bounded buf List.mem_cons_self)
      have rest := ih fun other isIn =>
        bounded other (List.mem_cons_of_mem buf isIn)
      rw [List.flatMap_cons, List.flatMap_cons, List.flatten_append, first,
        rest, List.flatten_singleton]

/-- A websocket on which nothing has been sent yet. -/
structure FreshWebSocket (sender : ServerSender) : Prop
    extends OpenWebSocket sender where
  nothingSent : sender.passedOn = []
  nothingWaits : sender.sendBuf.used = 0

theorem FreshWebSocket.grouped {sender : ServerSender}
    (fresh : sender.FreshWebSocket) : sender.Grouped [] where
  isOpen := fresh.toOpenWebSocket
  bounded := by simp [fresh.nothingSent]
  groups := by
    refine ⟨[], [], rfl, fresh.nothingSent, ?_⟩
    exact (SendBuffer.contents_eq_nil _).mpr fresh.nothingWaits

/-- The peer of a websocket parses frames from what has arrived of the bytes
sent: each holds a group of whole packages, in their order, and there is no
other frame behind them.  When all has arrived, no package is missing. -/
structure Receives (host : Host) (packages : List Bytes)
    (sender : ServerSender) (arrived : Bytes) (groups : List (List Bytes)) :
    Prop where
  frames : (takeItems parse arrived.length arrived).1 =
    groups.map fun group => frame group.flatten
  inOrder : groups.flatten <+: packages
  behind : parse (takeItems parse arrived.length arrived).2 = none
  complete : arrived = sender.wire host →
    groups.flatten.flatten = packages.flatten ∧
      (takeItems parse arrived.length arrived).2 = []

theorem Grouped.receives {sender : ServerSender} {packages : List Bytes}
    (grouped : sender.Grouped packages) (host : Host)
    (empty : sender.sendBuf.used = 0) {arrived : Bytes}
    (isPrefix : arrived <+: sender.wire host) :
    ∃ groups, Receives host packages sender arrived groups := by
  obtain ⟨groups, waiting, packagesEq, passedOn, waits⟩ := grouped.groups
  have wireEq := grouped.wire_eq host
  have valid : ∀ item ∈ sender.passedOn.map frame,
      item.payload.length < 2 ^ 63 := by
    intro item isIn
    obtain ⟨buf, passed, rfl⟩ := List.mem_map.mp isIn
    exact Nat.lt_trans (grouped.bounded buf passed) (by decide)
  rw [wireEq] at isPrefix
  obtain ⟨front, left, taken, isFront, -, behind, whole⟩ :=
    parse_incremental.takeItems_of_prefix valid isPrefix
  have frontEq := List.prefix_iff_eq_take.mp isFront
  rw [passedOn, List.map_map, ← List.map_take] at frontEq
  refine ⟨groups.take front.length, ?_, ?_, ?_, ?_⟩
  · rw [taken]
    exact frontEq
  · rw [packagesEq]
    exact ((List.take_prefix _ _).flatten).trans (List.prefix_append _ _)
  · rw [taken]
    exact behind
  · intro isWhole
    rw [wireEq] at isWhole
    obtain ⟨frontAll, leftEq⟩ := whole isWhole
    have all : groups.take front.length = groups := by
      rw [frontAll, passedOn, List.length_map, List.length_map,
        List.take_length]
    have nothing : waiting.flatten = [] := by
      rw [← waits]
      exact (SendBuffer.contents_eq_nil _).mpr empty
    refine ⟨?_, by rw [taken]; exact leftEq⟩
    rw [all, packagesEq, List.flatten_append, nothing, List.append_nil]

end ServerSender

/-- Packages for any number of websockets, in any batches: whatever part of
the bytes sent has arrived at a peer, it parses binary frames there, each with
whole packages of its own, complete and in the order of the queue. -/
theorem webSocketDelivery (host : Host) (batches : List (List (Nat × Bytes)))
    (sockets : List ServerSender)
    (fresh : ∀ sender ∈ sockets, sender.FreshWebSocket)
    (packages : SendPackages sockets.length batches) :
    ∃ after,
      ServerSender.pairCallback.runAll
          (batches.map (Buffering.packagesOf .sendBuf)) sockets = .ok after ∧
        ∀ (name : Nat) (sender : ServerSender), after[name]? = some sender →
          ∀ arrived, arrived <+: sender.wire host →
            ∃ groups, sender.Receives host (own name batches.flatten) arrived
              groups := by
  have live : ∀ sender ∈ sockets, sender.Live ∧
      sender.line.passes = true ∧ sender.line.waiting = [] := by
    intro sender isIn
    have isFresh := fresh sender isIn
    exact ⟨isFresh.live, decide_eq_true isFresh.connected,
      sender.line_waiting_eq_nil.mpr isFresh.nothingWaits⟩
  obtain ⟨after, ran, outcome⟩ :=
    runAll_inOrder ServerSender.pairCallback_buffering (fun _ => rfl)
      ServerSender.wsLenAdd_le live packages
  refine ⟨after, ran, ?_⟩
  intro name sender found arrived isPrefix
  have within : name < sockets.length := by
    rw [← ServerSender.runAll_length ran]
    exact (List.getElem?_eq_some_iff.mp found).1
  obtain ⟨settled, foundSettled, -, waiting⟩ :=
    outcome name _ (List.getElem?_eq_getElem within)
  obtain rfl := Option.some.inj (found.symm.trans foundSettled)
  have grouped := ServerSender.Grouped.runAll
    (fun name sender isIn =>
      (fresh sender (List.mem_of_getElem? isIn)).grouped)
    (fun batch batchIn package isIn =>
      (packages batch batchIn package isIn).2) ran name sender found
  exact grouped.receives host (sender.line_waiting_eq_nil.mp waiting)
    isPrefix

/-- Three packages in two batches make two frames. -/
theorem webSocketDelivery_twoFrames :
    let socket : ServerSender :=
      { ServerSender.accepted with nWebSocketFlag := .isWebSocket (.zero _) }
    ∃ after,
      ServerSender.pairCallback.runAll
          ([[(0, [1]), (0, [2])], [(0, [3])]].map
            (Buffering.packagesOf .sendBuf)) [socket] = .ok after ∧
        ∀ (name : Nat) (sender : ServerSender), after[name]? = some sender →
          ∀ arrived, arrived <+: sender.wire .little →
            ∃ groups, sender.Receives .little
              (own name [[(0, [1]), (0, [2])], [(0, [3])]].flatten) arrived
              groups := by
  apply webSocketDelivery
  · intro sender isIn
    rw [List.mem_singleton.mp isIn]
    exact ⟨⟨rfl, rfl, _, rfl⟩, rfl, rfl⟩
  · intro batch batchIn package isIn
    simp only [List.mem_cons, List.not_mem_nil, or_false] at batchIn
    rcases batchIn with rfl | rfl <;>
      simp only [List.mem_cons, List.not_mem_nil, or_false] at isIn
    · rcases isIn with rfl | rfl <;> decide
    · subst isIn
      decide

end EchoServer
