import EchoServer.ClientSending

/-!
# Nothing is lost on the way to the sockets

On both kinds of IO threads, packages that are not longer than
`MAX_SEND_BUF_SIZE` reach their sockets complete and in order, however they
are spread over calls of `pairCallback`.
-/

namespace EchoServer

open DispatchLoop Buffering

variable {Fault Package Object : Type}

/-- The packages name one of so many sockets and are not too long. -/
def SendPackages (count : Nat) (batches : List (List (Nat × Bytes))) : Prop :=
  ∀ batch ∈ batches, ∀ package ∈ batch,
    package.1 < count ∧ package.2.length ≤ maxSendBufSize

/-- Whenever a batch is done, each object has passed on its own packages, and
its buffer is empty.  In between, no buffer is ever full: a `SendBuffer` holds
less than its capacity by construction, and `inOrder` says that no copy leaves
its block on the way. -/
structure Delivers (loop : DispatchLoop Fault Package Object)
    (chunkPackage : Bytes → Package) (passedOn : Object → List Bytes)
    (nSendBufLen : Object → Nat) (batches : List (List (Nat × Bytes)))
    (objects : List Object) : Prop where
  inOrder : ∀ done, done <+: batches → ∃ after,
    loop.runAll (done.map (packagesOf chunkPackage)) objects = .ok after ∧
      ∀ name object, objects[name]? = some object →
        ∃ object', after[name]? = some object' ∧
          (passedOn object').flatten =
            (passedOn object).flatten ++ (own name done.flatten).flatten ∧
          nSendBufLen object' = 0
  neverFull : ∀ done batch before between, done ++ [batch] <+: batches →
    loop.runAll (done.map (packagesOf chunkPackage)) objects = .ok before →
      loop.PassesThrough (packagesOf chunkPackage batch) before between →
      ∀ object ∈ between, nSendBufLen object < maxBufferSize

section Lines

variable {loop : DispatchLoop Fault Package Object}
variable {chunkPackage : Bytes → Package} {line : Object → Line}
variable {Ready : Object → Prop} {objects : List Object}
variable {batches : List (List (Nat × Bytes))}

/-- Lines that pass on what they are given, and have room for packages that
are not too long, send them in order. -/
theorem runAll_inOrder
    (buffering : Buffering loop chunkPackage line Ready)
    (capacity : ∀ object, (line object).capacity = maxBufferSize)
    (reserve : ∀ object, (line object).reserve ≤ 10)
    (live : ∀ object ∈ objects, Ready object ∧
      (line object).passes = true ∧ (line object).waiting = [])
    (packages : SendPackages objects.length batches) :
    ∃ after,
      loop.runAll (batches.map (packagesOf chunkPackage)) objects =
        .ok after ∧
      ∀ name object, objects[name]? = some object →
        ∃ object', after[name]? = some object' ∧
          (line object').sent =
            (line object).sent ++ (own name batches.flatten).flatten ∧
          (line object').waiting = [] := by
  have idle : ∀ name object, objects[name]? = some object →
      ∀ batch ∈ batches, Idle line Ready (own name batch) object := by
    intro name object found batch batchIn
    obtain ⟨ready, -, empty⟩ := live object (List.mem_of_getElem? found)
    refine ⟨ready, empty, Line.withinWord_of_length ?_ ?_⟩
    · have := reserve object
      rw [empty, capacity, List.length_nil]
      simp only [maxBufferSize]
      omega
    · intro chunk isIn
      have short := (packages batch batchIn _ (mem_own.mp isIn)).2
      simp only [capacity, maxBufferSize, maxSendBufSize] at short ⊢
      omega
  obtain ⟨after, ran, outcome⟩ := buffering.runAll
    fun batch batchIn package isIn => by
      have within := (packages batch batchIn package isIn).1
      exact ⟨objects[package.1], List.getElem?_eq_getElem within,
        idle package.1 _ (List.getElem?_eq_getElem within)⟩
  refine ⟨after, ran, ?_⟩
  intro name object found
  obtain ⟨ready, passes, empty⟩ := live object (List.mem_of_getElem? found)
  obtain ⟨object', found', sent⟩ :=
    outcome name object found ready empty (idle name object found)
  refine ⟨object', found', ?_, sent.waiting⟩
  rw [sent.sent, Line.payload_of_small passes]
  intro chunk isIn
  obtain ⟨batch, batchIn, chunkIn⟩ := List.mem_flatten.mp (mem_own.mp isIn)
  have short := (packages batch batchIn _ chunkIn).2
  have := reserve object
  simp only [Line.Small, capacity, maxBufferSize, maxSendBufSize] at short ⊢
  omega

theorem delivers_of_buffering {passedOn : Object → List Bytes}
    {nSendBufLen : Object → Nat}
    (buffering : Buffering loop chunkPackage line Ready)
    (capacity : ∀ object, (line object).capacity = maxBufferSize)
    (reserve : ∀ object, (line object).reserve ≤ 10)
    (sentEq : ∀ object, (line object).sent = (passedOn object).flatten)
    (waitingEq : ∀ object,
      (line object).waiting = [] ↔ nSendBufLen object = 0)
    (lengthLt : ∀ object, nSendBufLen object < maxBufferSize)
    (live : ∀ object ∈ objects, Ready object ∧
      (line object).passes = true ∧ nSendBufLen object = 0)
    (packages : SendPackages objects.length batches) :
    Delivers loop chunkPackage passedOn nSendBufLen batches objects where
  inOrder := by
    intro done isPrefix
    have isLive : ∀ object ∈ objects, Ready object ∧
        (line object).passes = true ∧ (line object).waiting = [] := by
      intro object isIn
      obtain ⟨ready, passes, empty⟩ := live object isIn
      exact ⟨ready, passes, (waitingEq object).mpr empty⟩
    have donePackages : SendPackages objects.length done :=
      fun batch isIn => packages batch (isPrefix.subset isIn)
    obtain ⟨after, ran, outcome⟩ :=
      runAll_inOrder buffering capacity reserve isLive donePackages
    refine ⟨after, ran, ?_⟩
    intro name object found
    obtain ⟨object', found', sent, waiting⟩ := outcome name object found
    rw [sentEq, sentEq] at sent
    exact ⟨object', found', sent, (waitingEq object').mp waiting⟩
  neverFull := fun _ _ _ _ _ _ _ object _ => lengthLt object

end Lines

/-- `send_buf` packages for live sockets, on the server's and on the client's
IO threads: whatever the sockets and the batches, each socket has passed on
its packages, complete and in the order of the queue, when `pairCallback`
returns, and its buffer is empty again, as it is in a new socket. -/
theorem sendPath (batches : List (List (Nat × Bytes))) :
    (∀ sockets : List ServerSender,
      (∀ sender ∈ sockets, sender.destroyed = false ∧
        sender.status = .connected ∧ sender.sendBuf.used = 0) →
      SendPackages sockets.length batches →
      Delivers ServerSender.pairCallback .sendBuf ServerSender.passedOn
        (fun sender => sender.sendBuf.used) batches sockets) ∧
    ∀ sockets : List ClientSender,
      (∀ sender ∈ sockets, sender.bev ≠ .null ∧ sender.sendBuf.used = 0) →
      SendPackages sockets.length batches →
      Delivers ClientSender.pairCallback id ClientSender.passedOn
        (fun sender => sender.sendBuf.used) batches sockets := by
  constructor
  · intro sockets live packages
    refine delivers_of_buffering ServerSender.pairCallback_buffering
      (fun _ => rfl) ServerSender.wsLenAdd_le (fun _ => rfl)
      ServerSender.line_waiting_eq_nil (fun sender => sender.sendBuf.used_lt)
      ?_ packages
    intro sender isIn
    obtain ⟨isLive, connected, empty⟩ := live sender isIn
    exact ⟨isLive, decide_eq_true connected, empty⟩
  · intro sockets live packages
    refine delivers_of_buffering ClientSender.pairCallback_buffering
      (fun _ => rfl) (fun _ => Nat.zero_le 10) (fun _ => rfl)
      ClientSender.line_waiting_eq_nil (fun sender => sender.sendBuf.used_lt)
      ?_ packages
    intro sender isIn
    obtain ⟨bev, empty⟩ := live sender isIn
    exact ⟨bev, rfl, empty⟩

theorem sendPath_twoPackages :
    Delivers ServerSender.pairCallback .sendBuf ServerSender.passedOn
        (fun sender => sender.sendBuf.used) [[(0, [1]), (0, [2])]]
        [.accepted] ∧
      Delivers ClientSender.pairCallback id ClientSender.passedOn
        (fun sender => sender.sendBuf.used) [[(0, [1]), (0, [2])]]
        [{ bev := .enabled
           sendBuf := { block := .zero _, used := 0, used_lt := by decide }
           passedOn := [] }] := by
  have packages : SendPackages 1 [[(0, [1]), (0, [2])]] := by
    intro batch isIn package packageIn
    obtain rfl : batch = [(0, [1]), (0, [2])] := by simpa using isIn
    obtain rfl | rfl : package = (0, [1]) ∨ package = (0, [2]) := by
      simpa using packageIn
    · decide
    · decide
  refine ⟨(sendPath _).1 _ ?_ packages, (sendPath _).2 _ ?_ packages⟩
  · intro sender isIn
    obtain rfl : sender = .accepted := by simpa using isIn
    exact ⟨rfl, rfl, rfl⟩
  · intro sender isIn
    rw [List.mem_singleton.mp isIn]
    exact ⟨nofun, rfl⟩

end EchoServer
