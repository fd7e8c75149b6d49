import EchoServer.ServerSending

/-!
# Sends and closes in one batch

`pairCallback` destroys a socket when it takes the `close` package, but sends
the buffers behind the loop.  A socket that one batch sends to and then closes
is destroyed when its buffer is to be sent.
-/

namespace EchoServer

open FaultingComputation DispatchLoop

namespace SocketPackage

/-- `p.buf`. -/
def buf? : SocketPackage → Option Bytes
  | sendBuf buf => some buf
  | close => none

theorem buf?_eq_some {package : SocketPackage} {buf : Bytes} :
    package.buf? = some buf ↔ package = .sendBuf buf := by
  cases package with
  | sendBuf other => simp [buf?]
  | close => simp [buf?]

end SocketPackage

namespace ServerSender

/-- What a batch sends to a socket. -/
def sentTo (socket : Nat) (batch : List (Nat × SocketPackage)) : List Bytes :=
  (own socket batch).filterMap SocketPackage.buf?

/-- The packages name sockets that exist when `pairCallback` is called, and
whose buffers are empty then; a package for a socket comes in front of its
`close`; and lengths are 32-bit numbers. -/
structure WellFormed (batch : List (Nat × SocketPackage))
    (sockets : List ServerSender) : Prop where
  live : ∀ package ∈ batch, ∃ sender, sockets[package.1]? = some sender ∧
    sender.destroyed = false ∧ sender.sendBuf.used = 0
  closeLast : batch.Pairwise fun package later =>
    package.2 = .close → later.1 ≠ package.1
  isWord : ∀ socket buf, (socket, .sendBuf buf) ∈ batch →
    buf.length < 2 ^ 32

/-- The batch is dealt and flushed without the use of a destroyed socket, and
what was sent to a connected socket has been passed on when the socket is
closed. -/
structure Delivered (batch : List (Nat × SocketPackage))
    (sockets : List ServerSender) : Prop where
  flushed : ∃ after, pairCallback.run batch sockets = .ok after
  beforeClose : ∀ before after socket (desk : Desk ServerSender)
    (sender sender' : ServerSender),
    batch = before ++ (socket, .close) :: after →
    sockets[socket]? = some sender →
    pairCallback.dealAll before { objects := sockets, list := [] } =
      .ok desk →
    desk.objects[socket]? = some sender' → sender'.status = .connected →
    sender'.passedOn.flatten =
      sender.passedOn.flatten ++ (sentTo socket before).flatten

/-- No length wraps around in `expandSendBuf`, and the batch does not close a
socket that it sends to, unless the socket is not connected and the package
too long for the buffer. -/
structure Separated (batch : List (Nat × SocketPackage))
    (sockets : List ServerSender) : Prop where
  within : ∀ socket (sender : ServerSender), sockets[socket]? = some sender →
    sender.line.WithinWord (sentTo socket batch)
  apart : ∀ socket buf (sender : ServerSender),
    sockets[socket]? = some sender → (socket, .close) ∈ batch →
    (socket, .sendBuf buf) ∈ batch →
    sender.status ≠ .connected ∧
      maxBufferSize ≤ buf.length + sender.wsLenAdd

section Packages

variable {socket : Nat} {batch before after : List (Nat × SocketPackage)}
variable {sockets : List ServerSender}

theorem mem_sentTo {buf : Bytes} :
    buf ∈ sentTo socket batch ↔ (socket, .sendBuf buf) ∈ batch := by
  simp only [sentTo, List.mem_filterMap, SocketPackage.buf?_eq_some,
    exists_eq_right, mem_own]

theorem sentTo_append :
    sentTo socket (before ++ after) =
      sentTo socket before ++ sentTo socket after := by
  rw [sentTo, own_append, List.filterMap_append]
  rfl

/-- The packages for a socket that come in front of its `close`. -/
theorem packages_eq {packages : List SocketPackage}
    (closeLast : packages.Pairwise fun package _ => package ≠ .close) :
    packages = (packages.filterMap SocketPackage.buf?).map .sendBuf ++
      if .close ∈ packages then [.close] else [] := by
  induction packages with
  | nil => rfl
  | cons package packages ih =>
      obtain ⟨first, rest⟩ := List.pairwise_cons.mp closeLast
      cases package with
      | sendBuf buf =>
          have next := ih rest
          simpa [SocketPackage.buf?] using next
      | close =>
          obtain rfl : packages = [] := by
            apply List.eq_nil_iff_forall_not_mem.mpr
            intro other isIn
            exact first other isIn rfl
          rfl

theorem sentTo_of_own_nil (nothing : own socket batch = []) :
    sentTo socket batch = [] := by
  rw [sentTo, nothing]
  rfl

theorem own_ne_nil (some : own socket batch ≠ []) :
    ∃ package ∈ batch, package.1 = socket := by
  obtain ⟨package, isIn⟩ := List.exists_mem_of_ne_nil _ some
  exact ⟨(socket, package), mem_own.mp isIn, rfl⟩

theorem own_closeLast (closeLast : batch.Pairwise fun package later =>
      package.2 = .close → later.1 ≠ package.1) :
    (own socket batch).Pairwise fun package _ => package ≠ .close := by
  apply List.Pairwise.filterMap _ _ closeLast
  rintro ⟨owner, package⟩ ⟨laterOwner, later⟩ lastOne package' selected
    later' laterSelected isClose
  simp only [Option.ite_none_right_eq_some, Option.some.injEq]
    at selected laterSelected
  obtain ⟨rfl, rfl⟩ := selected
  obtain ⟨rfl, rfl⟩ := laterSelected
  exact lastOne isClose rfl

/-- The packages that a batch holds for a socket. -/
theorem own_eq (closeLast : batch.Pairwise fun package later =>
      package.2 = .close → later.1 ≠ package.1) :
    own socket batch = (sentTo socket batch).map .sendBuf ++
      if (socket, .close) ∈ batch then [.close] else [] := by
  rw [packages_eq (own_closeLast closeLast), sentTo]
  simp only [mem_own]

end Packages

section OneSocket

variable {name : Nat} {sender : ServerSender} {chunks : List Bytes}

theorem serve_close (live : sender.Live) (listed : Bool) :
    pairCallback.serveAll name [.close] (sender, listed) =
      .ok ({ sender.toClose with destroyed := true }, listed) := by
  have usable := pairCallback_buffering.usable sender live
  have closed : pairCallback.deal .close sender =
      .ok ({ sender.toClose with destroyed := true }, false) := rfl
  have first : pairCallback.serveOne name (sender, listed) .close =
      .ok ({ sender.toClose with destroyed := true }, listed || false) := by
    rw [serveOne, if_pos usable, closed]
    rfl
  rw [Bool.or_false] at first
  rw [serveAll, List.foldlM_cons, first]
  rfl

/-- Packages that do not fault stay within 32 bits. -/
theorem withinWord_of_serveAll {state result : ServerSender × Bool}
    (served : pairCallback.serveAll name
      (chunks.map .sendBuf) state = .ok result)
    (live : state.1.Live) (isWord : ∀ chunk ∈ chunks, chunk.length < 2 ^ 32) :
    state.1.line.WithinWord chunks := by
  induction chunks generalizing state with
  | nil => trivial
  | cons chunk chunks ih =>
      have usable := pairCallback_buffering.usable state.1 live
      have noWrap : ¬ state.1.line.Wraps chunk := by
        intro wraps
        have faults : pairCallback.deal (.sendBuf chunk) state.1 =
            .error .outOfBounds :=
          deal_wraps (isWord chunk List.mem_cons_self) wraps
        rw [serveAll, List.map_cons, List.foldlM_cons, serveOne,
          if_pos usable, faults] at served
        cases served
      obtain ⟨sender', dealt, line', live'⟩ :=
        pairCallback_buffering.deal state.1 chunk live noWrap
      refine ⟨noWrap, ?_⟩
      rw [← line']
      rw [serveAll, List.map_cons, List.foldlM_cons, serveOne, if_pos usable,
        dealt] at served
      have restServed : pairCallback.serveAll name (chunks.map .sendBuf)
          (sender', state.2 || decide (state.1.line.Fits chunk)) =
            .ok result := served
      exact ih restServed live'
        fun other isIn => isWord other (List.mem_cons_of_mem _ isIn)

/-- What a batch has done to a socket. -/
structure Outcome (batch : List (Nat × SocketPackage)) (name : Nat)
    (sender final : ServerSender) : Prop where
  passedOn : final.passedOn.flatten =
    sender.passedOn.flatten ++ sender.line.payload (sentTo name batch)
  empty : final.sendBuf.used = 0
  kept : (name, .close) ∉ batch →
    final.Live ∧ sender.line.Alike final.line

variable {batch : List (Nat × SocketPackage)} {sockets : List ServerSender}

/-- A socket that is closed gets nothing that fits its buffer, and nothing at
all if it is connected. -/
theorem payload_of_close (separated : Separated batch sockets)
    (found : sockets[name]? = some sender) (closes : (name, .close) ∈ batch) :
    (∀ chunk ∈ sentTo name batch, ¬ sender.line.Small chunk) ∧
      sender.line.payload (sentTo name batch) = [] := by
  have apart : ∀ chunk ∈ sentTo name batch, sender.status ≠ .connected ∧
      maxBufferSize ≤ chunk.length + sender.wsLenAdd :=
    fun chunk isIn =>
      separated.apart name chunk sender found closes (mem_sentTo.mp isIn)
  have long : ∀ chunk ∈ sentTo name batch, ¬ sender.line.Small chunk :=
    fun chunk isIn => Nat.not_lt.mpr (apart chunk isIn).2
  refine ⟨long, ?_⟩
  rw [Line.payload]
  split_ifs with passes
  · have nothing : sentTo name batch = [] := by
      apply List.eq_nil_iff_forall_not_mem.mpr
      intro chunk isIn
      exact (apart chunk isIn).1 (of_decide_eq_true passes)
    rw [nothing]
    rfl
  · rfl

/-- A socket with its packages of a separated batch. -/
theorem serve_of_separated (wellFormed : WellFormed batch sockets)
    (separated : Separated batch sockets)
    (found : sockets[name]? = some sender) (live : sender.Live)
    (empty : sender.sendBuf.used = 0) :
    ∃ sender' listed, pairCallback.serveAll name (own name batch)
        (sender, false) = .ok (sender', listed) ∧
      (listed = true → ∃ settled, pairCallback.Settles sender' settled) ∧
      ∀ final, (listed = true → pairCallback.visit sender' = .ok final) →
        (listed = false → final = sender') →
        Outcome batch name sender final := by
  have waiting := sender.line_waiting_eq_nil.mpr empty
  obtain ⟨sent, served, line', live'⟩ := pairCallback_buffering.serveAll name
    false live (separated.within name sender found)
  rw [Bool.false_or] at served
  rw [own_eq wellFormed.closeLast, serveAll_append, served]
  split_ifs with closes
  · obtain ⟨long, nothing⟩ := payload_of_close separated found closes
    have unlisted : sender.line.lists (sentTo name batch) = false := by
      rw [Bool.eq_false_iff, Ne, Line.lists_iff waiting]
      rintro ⟨chunk, isIn, small⟩
      exact long chunk isIn small
    rw [Line.acceptAll_of_not_small waiting long] at line'
    rw [unlisted]
    refine ⟨_, false, serve_close live' false, (nomatch ·), ?_⟩
    rintro final - untouched
    obtain rfl := untouched rfl
    refine ⟨?_, ?_, fun isOpen => absurd closes isOpen⟩
    · rw [nothing, List.append_nil]
      exact congrArg Line.sent line'
    · have stillWaiting : sent.line.waiting = [] := by rw [line', waiting]
      exact sent.line_waiting_eq_nil.mp stillWaiting
  · refine ⟨sent, _, rfl, ?_, ?_⟩
    · intro _
      obtain ⟨settled, settles, -⟩ := pairCallback_buffering.settles live'
      exact ⟨settled, settles⟩
    · intro final visited untouched
      have result := pairCallback_buffering.sent_of_visit waiting live' line'
        rfl visited untouched
      exact ⟨result.sent, final.line_waiting_eq_nil.mp result.waiting,
        fun _ => ⟨result.ready, result.alike⟩⟩

end OneSocket

section Batches

variable {batch : List (Nat × SocketPackage)} {sockets : List ServerSender}

/-- A separated batch passes on what it sends to connected sockets. -/
theorem run_of_separated (wellFormed : WellFormed batch sockets)
    (separated : Separated batch sockets) :
    ∃ after, pairCallback.run batch sockets = .ok after ∧
      ∀ name (sender : ServerSender), sockets[name]? = some sender →
        ∃ final, after[name]? = some final ∧
          final.passedOn.flatten = sender.passedOn.flatten ++
            sender.line.payload (sentTo name batch) ∧
          (sender.Live → sender.sendBuf.used = 0 →
            Outcome batch name sender final) := by
  obtain ⟨after, ran, outcome⟩ : ∃ after,
      pairCallback.run batch sockets = .ok after ∧
        ∀ name (sender : ServerSender), sockets[name]? = some sender →
          ∃ (sender' : ServerSender) (listed : Bool) (final : ServerSender),
            after[name]? = some final ∧
              pairCallback.serveAll name (own name batch) (sender, false) =
                .ok (sender', listed) ∧
              (listed = true → pairCallback.visit sender' = .ok final) ∧
              (listed = false → final = sender') := by
    apply run_of_serveAll
    intro package isIn
    obtain ⟨sender, found, live, empty⟩ := wellFormed.live package isIn
    obtain ⟨sender', listed, served, settles, -⟩ :=
      serve_of_separated wellFormed separated found live empty
    exact ⟨sender, sender', listed, found, served, settles⟩
  refine ⟨after, ran, ?_⟩
  intro name sender found
  obtain ⟨sender', listed, final, finalFound, served, visited, untouched⟩ :=
    outcome name sender found
  have result : sender.Live → sender.sendBuf.used = 0 →
      Outcome batch name sender final := by
    intro live empty
    obtain ⟨other, otherListed, otherServed, -, finish⟩ :=
      serve_of_separated wellFormed separated found live empty
    rw [served] at otherServed
    obtain ⟨rfl, rfl⟩ := Prod.mk.inj (Except.ok.inj otherServed)
    exact finish final visited untouched
  refine ⟨final, finalFound, ?_, result⟩
  by_cases nothing : own name batch = []
  · rw [nothing] at served
    obtain ⟨rfl, rfl⟩ := Prod.mk.inj (Except.ok.inj served)
    rw [untouched rfl, sentTo_of_own_nil nothing, Line.payload_nil,
      List.append_nil]
  · obtain ⟨package, isIn, rfl⟩ := own_ne_nil nothing
    obtain ⟨other, otherFound, live, empty⟩ := wellFormed.live package isIn
    rw [found] at otherFound
    obtain rfl := Option.some.inj otherFound
    exact (result live empty).passedOn

/-- A batch has left the sockets that the rest of the queue names open, of the
same kind, and with empty buffers. -/
def Keeps (rest : List (Nat × SocketPackage))
    (sockets middle : List ServerSender) : Prop :=
  ∀ package ∈ rest, ∃ sender sender' : ServerSender,
    sockets[package.1]? = some sender ∧ middle[package.1]? = some sender' ∧
      sender'.Live ∧ sender'.sendBuf.used = 0 ∧
      sender.sendBuf.used = 0 ∧ sender.line.Alike sender'.line

/-- The rest of a queue does not name sockets that the batch has closed. -/
theorem keeps_of_outcome {rest : List (Nat × SocketPackage)}
    {middle : List ServerSender}
    (wellFormed : WellFormed (batch ++ rest) sockets)
    (outcome : ∀ name (sender : ServerSender), sockets[name]? = some sender →
      ∃ final, middle[name]? = some final ∧
        final.passedOn.flatten = sender.passedOn.flatten ++
          sender.line.payload (sentTo name batch) ∧
        (sender.Live → sender.sendBuf.used = 0 →
          Outcome batch name sender final)) :
    Keeps rest sockets middle := by
  intro package isIn
  obtain ⟨sender, found, live, empty⟩ :=
    wellFormed.live package (List.mem_append_right _ isIn)
  obtain ⟨final, finalFound, -, result⟩ := outcome _ sender found
  have done := result live empty
  have stillOpen : (package.1, SocketPackage.close) ∉ batch := by
    intro closes
    have apart := (List.pairwise_append.mp wellFormed.closeLast).2.2
    exact apart _ closes package isIn rfl rfl
  obtain ⟨finalLive, alike⟩ := done.kept stillOpen
  exact ⟨sender, final, found, finalFound, finalLive, done.empty, empty,
    alike⟩

theorem WellFormed.next {rest : List (Nat × SocketPackage)}
    {middle : List ServerSender}
    (wellFormed : WellFormed (batch ++ rest) sockets)
    (keeps : Keeps rest sockets middle) : WellFormed rest middle where
  live := by
    intro package isIn
    obtain ⟨-, sender', -, found, live, empty, -, -⟩ := keeps package isIn
    exact ⟨sender', found, live, empty⟩
  closeLast := (List.pairwise_append.mp wellFormed.closeLast).2.1
  isWord := fun socket buf isIn =>
    wellFormed.isWord socket buf (List.mem_append_right _ isIn)

/-- Whether a batch is separated is told by the kinds of its sockets. -/
theorem Separated.next {later rest : List (Nat × SocketPackage)}
    {middle : List ServerSender} (separated : Separated later sockets)
    (keeps : Keeps rest sockets middle) (isLater : later ⊆ rest) :
    Separated later middle where
  within := by
    intro name sender' found'
    by_cases nothing : own name later = []
    · rw [sentTo_of_own_nil nothing]
      trivial
    · obtain ⟨package, isIn, rfl⟩ := own_ne_nil nothing
      obtain ⟨sender, other, found, otherFound, -, empty', empty, alike⟩ :=
        keeps package (isLater isIn)
      rw [found'] at otherFound
      obtain rfl := Option.some.inj otherFound
      have waiting : sender'.line.waiting = sender.line.waiting := by
        rw [sender'.line_waiting_eq_nil.mpr empty',
          sender.line_waiting_eq_nil.mpr empty]
      rw [Line.withinWord_congr alike waiting]
      exact separated.within _ sender found
  apart := by
    intro socket buf sender' found' closes sends
    obtain ⟨sender, other, found, otherFound, -, -, -, alike⟩ :=
      keeps _ (isLater sends)
    rw [found'] at otherFound
    obtain rfl := Option.some.inj otherFound
    obtain ⟨unconnected, long⟩ :=
      separated.apart socket buf sender found closes sends
    have sameReserve : sender'.wsLenAdd = sender.wsLenAdd := alike.reserve
    have samePasses : sender'.line.passes = sender.line.passes := alike.passes
    refine ⟨?_, sameReserve ▸ long⟩
    intro connected
    have passes : sender.line.passes = true :=
      samePasses ▸ decide_eq_true connected
    exact unconnected (of_decide_eq_true passes)

/-- Separated batches, one after the other. -/
theorem runAll_of_separated
    {batches : List (List (Nat × SocketPackage))}
    (wellFormed : WellFormed batches.flatten sockets)
    (separated : ∀ batch ∈ batches, Separated batch sockets) :
    ∃ after, pairCallback.runAll batches sockets = .ok after ∧
      ∀ name (sender : ServerSender), sockets[name]? = some sender →
        ∃ final, after[name]? = some final ∧
          final.passedOn.flatten = sender.passedOn.flatten ++
            sender.line.payload (sentTo name batches.flatten) := by
  induction batches generalizing sockets with
  | nil =>
      refine ⟨sockets, rfl, ?_⟩
      intro name sender found
      exact ⟨sender, found, by simp [sentTo]⟩
  | cons batch batches ih =>
      rw [List.flatten_cons] at wellFormed
      have first : WellFormed batch sockets :=
        { live := fun package isIn =>
            wellFormed.live package (List.mem_append_left _ isIn)
          closeLast := (List.pairwise_append.mp wellFormed.closeLast).1
          isWord := fun socket buf isIn =>
            wellFormed.isWord socket buf (List.mem_append_left _ isIn) }
      obtain ⟨middle, ranFirst, outcome⟩ :=
        run_of_separated first (separated batch List.mem_cons_self)
      have keeps := keeps_of_outcome wellFormed outcome
      obtain ⟨after, ranRest, rest⟩ := ih (wellFormed.next keeps)
        fun later isIn =>
          (separated later (List.mem_cons_of_mem _ isIn)).next keeps
            fun package isThere =>
              List.mem_flatten.mpr ⟨later, isIn, isThere⟩
      refine ⟨after, ?_, ?_⟩
      · rw [runAll, List.foldlM_cons, ranFirst]
        exact ranRest
      · intro name sender found
        obtain ⟨between, betweenFound, passedOn, -⟩ :=
          outcome name sender found
        obtain ⟨final, finalFound, passedOnRest⟩ :=
          rest name between betweenFound
        refine ⟨final, finalFound, ?_⟩
        have samePayload :
            between.line.payload (sentTo name batches.flatten) =
              sender.line.payload (sentTo name batches.flatten) := by
          by_cases nothing : own name batches.flatten = []
          · rw [sentTo_of_own_nil nothing, Line.payload_nil,
              Line.payload_nil]
          · obtain ⟨package, isIn, rfl⟩ := own_ne_nil nothing
            obtain ⟨other, otherBetween, otherFound, otherBetweenFound, -, -,
              -, alike⟩ := keeps package isIn
            rw [found] at otherFound
            obtain rfl := Option.some.inj otherFound
            rw [betweenFound] at otherBetweenFound
            obtain rfl := Option.some.inj otherBetweenFound
            exact alike.payload
        rw [passedOnRest, passedOn, samePayload, List.flatten_cons,
          sentTo_append, Line.payload_append, List.append_assoc]

end Batches

section OneBatch

variable {before after : List (Nat × SocketPackage)} {socket : Nat}
variable {sockets : List ServerSender}

theorem close_not_mem_before
    (wellFormed : WellFormed (before ++ (socket, .close) :: after) sockets) :
    (socket, SocketPackage.close) ∉ before := by
  intro closes
  have apart := (List.pairwise_append.mp wellFormed.closeLast).2.2
  exact apart _ closes _ List.mem_cons_self rfl rfl

theorem sends_mem_before {buf : Bytes}
    (wellFormed : WellFormed (before ++ (socket, .close) :: after) sockets)
    (sends : (socket, SocketPackage.sendBuf buf) ∈
      before ++ (socket, .close) :: after) :
    (socket, SocketPackage.sendBuf buf) ∈ before := by
  obtain isBefore | isBehind := List.mem_append.mp sends
  · exact isBefore
  · obtain isClose | isAfter := List.mem_cons.mp isBehind
    · cases isClose
    · have behind := (List.pairwise_append.mp wellFormed.closeLast).2.1
      exact ((List.pairwise_cons.mp behind).1 _ isAfter rfl rfl).elim

/-- A socket at the moment when it is closed. -/
theorem dealt_before {sender : ServerSender} {desk : Desk ServerSender}
    (wellFormed : WellFormed (before ++ (socket, .close) :: after) sockets)
    (found : sockets[socket]? = some sender) (live : sender.Live)
    (within : sender.line.WithinWord (sentTo socket before))
    (dealt : pairCallback.dealAll before { objects := sockets, list := [] } =
      .ok desk) :
    ∃ sender', desk.objects[socket]? = some sender' ∧
      sender'.line = sender.line.acceptAll (sentTo socket before) := by
  obtain ⟨sender', found', served⟩ := dealAll_project dealt found
  obtain ⟨sent, follows, line', -⟩ := pairCallback_buffering.serveAll socket
    (decide (socket ∈ ([] : List Nat))) live within
  rw [own_eq (List.pairwise_append.mp wellFormed.closeLast).1,
    if_neg (close_not_mem_before wellFormed), List.append_nil, follows]
    at served
  obtain ⟨rfl, -⟩ := Prod.mk.inj (Except.ok.inj served)
  exact ⟨sent, found', line'⟩

theorem delivered_of_separated {batch : List (Nat × SocketPackage)}
    (wellFormed : WellFormed batch sockets)
    (separated : Separated batch sockets) : Delivered batch sockets where
  flushed := by
    obtain ⟨after, ran, -⟩ := run_of_separated wellFormed separated
    exact ⟨after, ran⟩
  beforeClose := by
    rintro before after socket desk sender sender' rfl found dealt found'
      connected
    obtain ⟨other, otherFound, live, -⟩ := wellFormed.live (socket, .close)
      (List.mem_append_right _ List.mem_cons_self)
    rw [found] at otherFound
    obtain rfl := Option.some.inj otherFound
    have within := separated.within socket sender found
    rw [sentTo_append] at within
    obtain ⟨closing, closingFound, line'⟩ :=
      dealt_before wellFormed found live within.left dealt
    rw [found'] at closingFound
    obtain rfl := Option.some.inj closingFound
    have alike := sender.line.acceptAll_alike (sentTo socket before)
    rw [← line'] at alike
    have passes : sender.line.passes = true :=
      alike.passes ▸ decide_eq_true connected
    have nothing : sentTo socket before = [] := by
      apply List.eq_nil_iff_forall_not_mem.mpr
      intro buf isIn
      have sends := List.mem_append_left ((socket, .close) :: after)
        (mem_sentTo.mp isIn)
      exact (separated.apart socket buf sender found
        (List.mem_append_right _ List.mem_cons_self) sends).1
          (of_decide_eq_true passes)
    rw [nothing] at line' ⊢
    have unchanged : sender'.passedOn.flatten = sender.passedOn.flatten :=
      congrArg Line.sent line'
    rw [unchanged, List.flatten_nil, List.append_nil]

/-- A socket that a batch closes without a fault got nothing that fits its
buffer. -/
theorem not_small_of_run {batch : List (Nat × SocketPackage)}
    {sender sender' : ServerSender} {listed : Bool}
    (wellFormed : WellFormed batch sockets) (live : sender.Live)
    (empty : sender.sendBuf.used = 0)
    (within : sender.line.WithinWord (sentTo socket batch))
    (closes : (socket, .close) ∈ batch)
    (served : pairCallback.serveAll socket (own socket batch)
      (sender, false) = .ok (sender', listed))
    (usable : listed = true → pairCallback.usable sender' = true) :
    ∀ buf ∈ sentTo socket batch, ¬ sender.line.Small buf := by
  intro buf isIn small
  obtain ⟨sent, follows, -, live'⟩ :=
    pairCallback_buffering.serveAll socket false live within
  rw [own_eq wellFormed.closeLast, if_pos closes, serveAll_append, follows]
    at served
  have closed : pairCallback.serveAll socket [.close]
      (sent, false || sender.line.lists (sentTo socket batch)) =
        .ok (sender', listed) := served
  rw [serve_close live'] at closed
  obtain ⟨rfl, rfl⟩ := Prod.mk.inj (Except.ok.inj closed)
  have waiting := sender.line_waiting_eq_nil.mpr empty
  have isListed := (Line.lists_iff waiting).mpr ⟨buf, isIn, small⟩
  have destroyedUsable := usable (by rw [isListed]; rfl)
  cases destroyedUsable

/-- A batch that is dealt and flushed without a fault stays within 32 bits. -/
theorem withinWord_of_run {batch : List (Nat × SocketPackage)}
    {after : List ServerSender} {name : Nat} {sender : ServerSender}
    (wellFormed : WellFormed batch sockets)
    (ran : pairCallback.run batch sockets = .ok after)
    (found : sockets[name]? = some sender) :
    sender.line.WithinWord (sentTo name batch) := by
  by_cases nothing : own name batch = []
  · rw [sentTo_of_own_nil nothing]
    trivial
  · obtain ⟨package, isIn, rfl⟩ := own_ne_nil nothing
    obtain ⟨other, otherFound, live, -⟩ := wellFormed.live package isIn
    rw [found] at otherFound
    obtain rfl := Option.some.inj otherFound
    obtain ⟨desk, -, project⟩ := run_ok ran
    obtain ⟨sender', listed, -, served, -⟩ := project _ sender found
    rw [own_eq wellFormed.closeLast, serveAll_append] at served
    obtain ⟨middle, sends, -⟩ := bind_ok served
    exact withinWord_of_serveAll sends live fun buf isSent =>
      wellFormed.isWord _ buf (mem_sentTo.mp isSent)

/-- A connected socket that is closed has passed on nothing of what is too
long for its buffer. -/
theorem sentTo_eq_nil_of_delivered {sender : ServerSender}
    {middle : Desk ServerSender}
    (wellFormed : WellFormed (before ++ (socket, .close) :: after) sockets)
    (delivered : Delivered (before ++ (socket, .close) :: after) sockets)
    (found : sockets[socket]? = some sender) (live : sender.Live)
    (empty : sender.sendBuf.used = 0) (connected : sender.status = .connected)
    (within : sender.line.WithinWord (sentTo socket before))
    (long : ∀ buf ∈ sentTo socket before, ¬ sender.line.Small buf)
    (dealt : pairCallback.dealAll before { objects := sockets, list := [] } =
      .ok middle) :
    ∀ buf ∈ sentTo socket before, buf = [] := by
  obtain ⟨closing, closingFound, line'⟩ :=
    dealt_before wellFormed found live within dealt
  rw [Line.acceptAll_of_not_small (sender.line_waiting_eq_nil.mpr empty)
    long] at line'
  have stillConnected : closing.status = .connected := by
    have passes : closing.line.passes = sender.line.passes :=
      congrArg Line.passes line'
    exact of_decide_eq_true (passes.trans (decide_eq_true connected))
  have passedOn := delivered.beforeClose before after socket middle sender
    closing rfl found dealt closingFound stillConnected
  have unchanged : closing.passedOn.flatten = sender.passedOn.flatten :=
    congrArg Line.sent line'
  rw [unchanged, List.self_eq_append_right, List.flatten_eq_nil_iff]
    at passedOn
  exact passedOn

theorem separated_of_delivered {batch : List (Nat × SocketPackage)}
    (wellFormed : WellFormed batch sockets)
    (delivered : Delivered batch sockets) : Separated batch sockets := by
  obtain ⟨final, ran⟩ := delivered.flushed
  obtain ⟨desk, dealt, project⟩ := run_ok ran
  refine ⟨fun _ _ found => withinWord_of_run wellFormed ran found, ?_⟩
  intro socket buf sender found closes sends
  obtain ⟨other, otherFound, live, empty⟩ := wellFormed.live _ closes
  rw [found] at otherFound
  obtain rfl := Option.some.inj otherFound
  have within := withinWord_of_run wellFormed ran found
  obtain ⟨sender', listed, -, served, usable⟩ := project socket sender found
  have long :=
    not_small_of_run wellFormed live empty within closes served usable
  have isLong : maxBufferSize ≤ buf.length + sender.wsLenAdd :=
    Nat.not_lt.mp (long buf (mem_sentTo.mpr sends))
  refine ⟨?_, isLong⟩
  intro connected
  obtain ⟨before, after, rfl⟩ := List.append_of_mem closes
  rw [dealAll_append] at dealt
  obtain ⟨middle, dealtBefore, -⟩ := bind_ok dealt
  rw [sentTo_append] at within long
  -- A package that is too long is not empty, so it should have been passed on.
  have nothing := sentTo_eq_nil_of_delivered wellFormed delivered found live
    empty connected within.left
    (fun chunk isIn => long chunk (List.mem_append_left _ isIn)) dealtBefore
    buf (mem_sentTo.mpr (sends_mem_before wellFormed sends))
  have reserve := sender.wsLenAdd_le
  rw [nothing, List.length_nil, maxBufferSize] at isLong
  omega

end OneBatch

/-- A batch is delivered exactly if it is separated; and if all batches are,
what the sockets get does not depend on how the queue is cut into batches. -/
theorem sendsAndCloses (sockets : List ServerSender) :
    (∀ batch, WellFormed batch sockets →
      (Delivered batch sockets ↔ Separated batch sockets)) ∧
    ∀ batches batches' : List (List (Nat × SocketPackage)),
      batches.flatten = batches'.flatten →
      WellFormed batches.flatten sockets →
      (∀ batch ∈ batches, Separated batch sockets) →
      (∀ batch ∈ batches', Separated batch sockets) →
      ∃ after after' : List ServerSender,
        pairCallback.runAll batches sockets = .ok after ∧
        pairCallback.runAll batches' sockets = .ok after' ∧
        ∀ (name : Nat) (sender : ServerSender),
          sockets[name]? = some sender →
          ∃ final final' : ServerSender, after[name]? = some final ∧
            after'[name]? = some final' ∧
            final.passedOn.flatten = final'.passedOn.flatten := by
  constructor
  · intro batch wellFormed
    exact ⟨separated_of_delivered wellFormed,
      delivered_of_separated wellFormed⟩
  · intro batches batches' sameQueue wellFormed separated separated'
    obtain ⟨after, ran, outcome⟩ :=
      runAll_of_separated wellFormed separated
    rw [sameQueue] at wellFormed
    obtain ⟨after', ran', outcome'⟩ :=
      runAll_of_separated wellFormed separated'
    refine ⟨after, after', ran, ran', ?_⟩
    intro name sender found
    obtain ⟨final, finalFound, passedOn⟩ := outcome name sender found
    obtain ⟨final', finalFound', passedOn'⟩ := outcome' name sender found
    refine ⟨final, final', finalFound, finalFound', ?_⟩
    rw [passedOn, passedOn', sameQueue]

theorem sendsAndCloses_twoSockets :
    Delivered [(0, .sendBuf [1]), (1, .close)] [accepted, accepted] ∧
      ∃ after after' : List ServerSender,
        pairCallback.runAll [[(0, .sendBuf [1]), (1, .close)]]
            [accepted, accepted] = .ok after ∧
          pairCallback.runAll [[(0, .sendBuf [1])], [(1, .close)]]
            [accepted, accepted] = .ok after' := by
  have isAccepted : ∀ (name : Nat) (sender : ServerSender),
      [accepted, accepted][name]? = some sender → sender = accepted := by
    intro name sender found
    simpa using List.mem_of_getElem? found
  have wellFormed : WellFormed [(0, .sendBuf [1]), (1, .close)]
      [accepted, accepted] := by
    refine ⟨?_, by simp, ?_⟩
    · intro package isIn
      obtain rfl | rfl :
          package = (0, .sendBuf [1]) ∨ package = (1, .close) := by
        simpa using isIn
      · exact ⟨accepted, rfl, rfl, rfl⟩
      · exact ⟨accepted, rfl, rfl, rfl⟩
    · intro socket buf isIn
      obtain ⟨rfl, rfl⟩ : socket = 0 ∧ buf = [1] := by simpa using isIn
      decide
  have separated : ∀ batch : List (Nat × SocketPackage),
      batch ⊆ [(0, .sendBuf [1]), (1, .close)] →
      Separated batch [accepted, accepted] := by
    intro batch isPart
    refine ⟨?_, ?_⟩
    · intro name sender found
      obtain rfl := isAccepted name sender found
      apply Line.withinWord_of_length
      · decide
      · intro buf isIn
        obtain ⟨-, rfl⟩ : name = 0 ∧ buf = [1] := by
          simpa using isPart (mem_sentTo.mp isIn)
        decide
    · intro socket buf sender _ closes sends
      obtain rfl : socket = 1 := by simpa using isPart closes
      simpa using isPart sends
  have both := sendsAndCloses [accepted, accepted]
  obtain ⟨after, after', ran, ran', -⟩ :=
    both.2 [[(0, .sendBuf [1]), (1, .close)]]
      [[(0, .sendBuf [1])], [(1, .close)]] rfl wellFormed
      (by simpa using separated _ (List.Subset.refl _))
      (by
        intro batch isIn
        apply separated
        obtain rfl | rfl : batch = [(0, .sendBuf [1])] ∨
            batch = [(1, .close)] := by
          simpa using isIn
        · simp
        · simp)
  exact ⟨(both.1 _ wellFormed).mpr (separated _ (List.Subset.refl _)),
    after, after', ran, ran'⟩

/-- A batch that sends to a socket and closes it uses the socket when it is
destroyed; the same queue in two batches sends the byte. -/
theorem sendsAndCloses_sendThenClose :
    WellFormed [(0, .sendBuf [1]), (0, .close)] [accepted] ∧
      pairCallback.run [(0, .sendBuf [1]), (0, .close)] [accepted] =
        .error (.destroyedSocket 0) ∧
      ¬ Delivered [(0, .sendBuf [1]), (0, .close)] [accepted] ∧
      ∃ after, pairCallback.runAll [[(0, .sendBuf [1])], [(0, .close)]]
          [accepted] = .ok after ∧
        after.map passedOn = [[[1]]] := by
  have faults : pairCallback.run [(0, .sendBuf [1]), (0, .close)]
      [accepted] = .error (.destroyedSocket 0) := by
    rfl
  refine ⟨⟨?_, ?_, ?_⟩, faults, ?_, ?_⟩
  · intro package isIn
    refine ⟨accepted, ?_, rfl, rfl⟩
    obtain rfl | rfl : package = (0, .sendBuf [1]) ∨ package = (0, .close) := by
      simpa using isIn
    · rfl
    · rfl
  · simp
  · intro socket buf isIn
    obtain ⟨rfl, rfl⟩ : socket = 0 ∧ buf = [1] := by simpa using isIn
    decide
  · intro delivered
    obtain ⟨after, ran⟩ := delivered.flushed
    rw [faults] at ran
    cases ran
  · exact ⟨_, rfl, rfl⟩

end ServerSender

end EchoServer
