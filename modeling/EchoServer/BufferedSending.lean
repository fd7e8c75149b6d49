import EchoServer.CoalescingBuffer
import EchoServer.DispatchLoop

/-!
# Loops that send through buffers

A dispatch loop whose packages are chunks of bytes, and whose objects collect
them in buffers.  An object comes on the list when a chunk is appended to its
buffer, and its buffer is emptied when it is visited.  A buffer that holds
something when the loop ends belongs to an object on the list, so nothing
stays behind; and each object sends its own chunks in their order, however
they are spread over batches.
-/

namespace EchoServer

open FaultingComputation DispatchLoop

variable {Fault Package Object : Type}

/-- The operations on the buffer of an object: append a chunk, if there is
room; whether something waits; send what waits. -/
structure Collector (Fault Object : Type) where
  expand : Bytes → Object → Except Fault (Option Object)
  hasData : Object → Bool
  consume : Object → Except Fault Object

namespace Collector

/-- Append a chunk.  Without room for it, send what waits and try again; a
chunk that is refused again is dropped.  The object comes on the list if the
first attempt succeeds. -/
def collect (collector : Collector Fault Object) (chunk : Bytes)
    (object : Object) : Except Fault (Object × Bool) := do
  match ← collector.expand chunk object with
  | some object => return (object, true)
  | none =>
      let object ← collector.consume object
      match ← collector.expand chunk object with
      | some object => return (object, false)
      | none => return (object, false)

/-- Send what waits, if there is something. -/
def empty (collector : Collector Fault Object) (object : Object) :
    Except Fault Object :=
  if collector.hasData object then collector.consume object else .ok object

/-- The operations follow the lines of the objects. -/
structure Follows (collector : Collector Fault Object)
    (line : Object → Line) (Ready : Object → Prop) : Prop where
  fits : ∀ object chunk, Ready object → ¬ (line object).Wraps chunk →
    (line object).Fits chunk →
    ∃ object', collector.expand chunk object = .ok (some object') ∧
      line object' =
        { line object with waiting := (line object).waiting ++ chunk } ∧
      Ready object'
  full : ∀ object chunk, Ready object → ¬ (line object).Wraps chunk →
    ¬ (line object).Fits chunk → collector.expand chunk object = .ok none
  hasData : ∀ object, collector.hasData object = false ↔
    (line object).waiting = []
  consume : ∀ object, Ready object →
    ∃ object', collector.consume object = .ok object' ∧
      line object' = (line object).flush ∧ Ready object'

variable {collector : Collector Fault Object} {line : Object → Line}
variable {Ready : Object → Prop}

theorem Follows.collect (follows : collector.Follows line Ready)
    {object : Object} {chunk : Bytes} (ready : Ready object)
    (within : ¬ (line object).Wraps chunk) :
    ∃ object', collector.collect chunk object =
        .ok (object', decide ((line object).Fits chunk)) ∧
      line object' = (line object).accept chunk ∧ Ready object' := by
  rw [Line.accept]
  by_cases fits : (line object).Fits chunk
  · obtain ⟨object', expanded, appended, ready'⟩ :=
      follows.fits object chunk ready within fits
    refine ⟨object', ?_, ?_, ready'⟩
    · rw [Collector.collect, expanded, decide_eq_true fits]
      rfl
    · rw [if_pos fits, appended]
  · obtain ⟨emptied, consumed, flushed, ready₁⟩ :=
      follows.consume object ready
    have within₁ : ¬ (line emptied).Wraps chunk := by
      rw [flushed]
      simp only [Line.Wraps, Line.flush, List.length_nil] at within ⊢
      omega
    have smallIff : (line emptied).Fits chunk ↔ (line object).Small chunk := by
      rw [flushed]
      exact Line.fits_of_small rfl
    have first := follows.full object chunk ready within fits
    by_cases small : (line object).Small chunk
    · obtain ⟨object', expanded, appended, ready'⟩ :=
        follows.fits emptied chunk ready₁ within₁ (smallIff.mpr small)
      refine ⟨object', ?_, ?_, ready'⟩
      · rw [Collector.collect, first, decide_eq_false fits]
        dsimp only [bind, Except.bind]
        rw [consumed]
        dsimp only
        rw [expanded]
        rfl
      · rw [if_neg fits, if_pos small, appended, flushed]
        rfl
    · have again := follows.full emptied chunk ready₁ within₁
        (mt smallIff.mp small)
      refine ⟨emptied, ?_, ?_, ready₁⟩
      · rw [Collector.collect, first, decide_eq_false fits]
        dsimp only [bind, Except.bind]
        rw [consumed]
        dsimp only
        rw [again]
        rfl
      · rw [if_neg fits, if_neg small, flushed]

theorem Follows.empty (follows : collector.Follows line Ready)
    {object : Object} (ready : Ready object) :
    ∃ object', collector.empty object = .ok object' ∧
      collector.empty object' = .ok object' ∧
      line object' = (line object).flush ∧ Ready object' := by
  cases hasData : collector.hasData object with
  | true =>
      obtain ⟨object', consumed, flushed, ready'⟩ :=
        follows.consume object ready
      have nothing : collector.hasData object' = false := by
        rw [follows.hasData, flushed]
        rfl
      refine ⟨object', ?_, ?_, flushed, ready'⟩
      · rw [Collector.empty, if_pos hasData, consumed]
      · rw [Collector.empty, if_neg (Bool.eq_false_iff.mp nothing)]
  | false =>
      have nothing := Bool.eq_false_iff.mp hasData
      have unchanged : line object = (line object).flush := by
        have waiting := (follows.hasData object).mp hasData
        rw [Line.flush, waiting, List.append_nil, ite_self, ← waiting]
      refine ⟨object, ?_, ?_, unchanged, ready⟩ <;>
        rw [Collector.empty, if_neg nothing]

end Collector

/-- The chunk packages and the visits of a loop follow the lines of its
objects, as long as the objects are ready and lengths within 32 bits. -/
structure Buffering (loop : DispatchLoop Fault Package Object)
    (chunkPackage : Bytes → Package) (line : Object → Line)
    (Ready : Object → Prop) : Prop where
  usable : ∀ object, Ready object → loop.usable object = true
  deal : ∀ object chunk, Ready object → ¬ (line object).Wraps chunk →
    ∃ object', loop.deal (chunkPackage chunk) object =
        .ok (object', decide ((line object).Fits chunk)) ∧
      line object' = (line object).accept chunk ∧ Ready object'
  visit : ∀ object, Ready object →
    ∃ object', loop.visit object = .ok object' ∧
      loop.visit object' = .ok object' ∧
      line object' = (line object).flush ∧ Ready object'

namespace Buffering

variable {loop : DispatchLoop Fault Package Object}
variable {chunkPackage : Bytes → Package} {line : Object → Line}
variable {Ready : Object → Prop} {object : Object}

/-- An object that gets chunks follows its line. -/
theorem serveAll (buffering : Buffering loop chunkPackage line Ready)
    (name : Nat) {chunks : List Bytes} (listed : Bool)
    (ready : Ready object) (within : (line object).WithinWord chunks) :
    ∃ object', loop.serveAll name (chunks.map chunkPackage) (object, listed) =
        .ok (object', listed || (line object).lists chunks) ∧
      line object' = (line object).acceptAll chunks ∧ Ready object' := by
  induction chunks generalizing object listed with
  | nil => exact ⟨object, by rw [Line.lists, Bool.or_false]; rfl, rfl, ready⟩
  | cons chunk chunks ih =>
      obtain ⟨object₁, dealt, line₁, ready₁⟩ :=
        buffering.deal object chunk ready within.1
      have within₁ : (line object₁).WithinWord chunks := line₁ ▸ within.2
      obtain ⟨object₂, served, line₂, ready₂⟩ :=
        ih (listed || decide ((line object).Fits chunk)) ready₁ within₁
      refine ⟨object₂, ?_, ?_, ready₂⟩
      · have first : loop.serveOne name (object, listed)
            (chunkPackage chunk) =
              .ok (object₁, listed || decide ((line object).Fits chunk)) := by
          rw [serveOne, if_pos (buffering.usable object ready), dealt]
          rfl
        rw [line₁] at served
        rw [DispatchLoop.serveAll, List.map_cons, List.foldlM_cons, first,
          Line.lists, ← Bool.or_assoc]
        exact served
      · rw [line₂, line₁]
        rfl

theorem settles (buffering : Buffering loop chunkPackage line Ready)
    (ready : Ready object) :
    ∃ object', loop.Settles object object' ∧
      line object' = (line object).flush ∧ Ready object' := by
  obtain ⟨object', visit, again, flushed, readyAfter⟩ :=
    buffering.visit object ready
  exact ⟨object', ⟨buffering.usable object ready, visit,
    buffering.usable object' readyAfter, again⟩, flushed, readyAfter⟩

/-- An object with an empty buffer, after a batch with the given chunks. -/
structure Sent (line : Object → Line) (Ready : Object → Prop)
    (chunks : List Bytes) (object after : Object) : Prop where
  ready : Ready after
  alike : (line object).Alike (line after)
  waiting : (line after).waiting = []
  sent : (line after).sent =
    (line object).sent ++ (line object).payload chunks

/-- Once it is visited, if it is on the list, an object has sent all its
chunks. -/
theorem sent_of_visit (buffering : Buffering loop chunkPackage line Ready)
    {object' final : Object} {chunks : List Bytes} {listed : Bool}
    (empty : (line object).waiting = []) (ready : Ready object')
    (accepted : line object' = (line object).acceptAll chunks)
    (isListed : listed = (line object).lists chunks)
    (visited : listed = true → loop.visit object' = .ok final)
    (untouched : listed = false → final = object') :
    Sent line Ready chunks object final := by
  have alike := (line object).acceptAll_alike chunks
  have total := (line object).total_acceptAll chunks
  rw [Line.total_of_waiting_nil empty] at total
  cases listed with
  | true =>
      obtain ⟨settled, visit, -, flushed, readyAfter⟩ :=
        buffering.visit object' ready
      obtain rfl : settled = final := by
        rw [visited rfl] at visit
        exact (Except.ok.inj visit).symm
      rw [accepted] at flushed
      refine ⟨readyAfter, ?_, ?_, ?_⟩
      · rw [flushed]
        exact alike.trans (Line.flush_alike _)
      · rw [flushed]
        rfl
      · rw [flushed]
        exact total
  | false =>
      obtain rfl := untouched rfl
      have unchanged := Line.waiting_of_not_lists empty isListed.symm
      have stillEmpty : (line final).waiting = [] := by
        rw [accepted, unchanged, empty]
      refine ⟨ready, accepted ▸ alike, stillEmpty, ?_⟩
      rw [← Line.total_of_waiting_nil stillEmpty, accepted, total]

/-- The packages that carry the given chunks. -/
def packagesOf (chunkPackage : Bytes → Package)
    (chunks : List (Nat × Bytes)) : List (Nat × Package) :=
  chunks.map fun chunk => (chunk.1, chunkPackage chunk.2)

/-- An object that is ready for its part of the chunks, and has sent
everything before. -/
structure Idle (line : Object → Line) (Ready : Object → Prop)
    (chunks : List Bytes) (object : Object) : Prop where
  ready : Ready object
  waiting : (line object).waiting = []
  within : (line object).WithinWord chunks

/-- A batch of chunks makes each object send its own. -/
theorem run (buffering : Buffering loop chunkPackage line Ready)
    {chunks : List (Nat × Bytes)} {objects : List Object}
    (idle : ∀ chunk ∈ chunks, ∃ object, objects[chunk.1]? = some object ∧
      Idle line Ready (own chunk.1 chunks) object) :
    ∃ after, loop.run (packagesOf chunkPackage chunks) objects = .ok after ∧
      ∀ name object, objects[name]? = some object →
        Idle line Ready (own name chunks) object →
        ∃ object', after[name]? = some object' ∧
          Sent line Ready (own name chunks) object object' := by
  have serves : ∀ package ∈ packagesOf chunkPackage chunks,
      ∃ object object' listed, objects[package.1]? = some object ∧
        loop.serveAll package.1
            (own package.1 (packagesOf chunkPackage chunks))
            (object, false) = .ok (object', listed) ∧
        (listed = true → ∃ settled, loop.Settles object' settled) := by
    intro package isIn
    obtain ⟨chunk, chunkIn, rfl⟩ := List.mem_map.mp isIn
    obtain ⟨object, found, isIdle⟩ := idle chunk chunkIn
    obtain ⟨object', served, -, ready'⟩ :=
      buffering.serveAll chunk.1 false isIdle.ready isIdle.within
    obtain ⟨settled, settles, -⟩ := buffering.settles ready'
    rw [packagesOf, own_map]
    exact ⟨object, object', _, found, served, fun _ => ⟨settled, settles⟩⟩
  obtain ⟨after, ran, outcome⟩ := run_of_serveAll serves
  refine ⟨after, ran, ?_⟩
  intro name object found isIdle
  obtain ⟨object', listed, final, finalFound, served, visited, untouched⟩ :=
    outcome name object found
  obtain ⟨followed, follows, accepted, ready'⟩ :=
    buffering.serveAll name false isIdle.ready isIdle.within
  rw [packagesOf, own_map, follows] at served
  obtain ⟨rfl, rfl⟩ := Prod.mk.inj (Except.ok.inj served)
  exact ⟨final, finalFound, buffering.sent_of_visit isIdle.waiting ready'
    accepted (Bool.false_or _) visited untouched⟩

theorem Sent.append {first second : List Bytes} {before middle after : Object}
    (sentFirst : Sent line Ready first before middle)
    (sentSecond : Sent line Ready second middle after) :
    Sent line Ready (first ++ second) before after where
  ready := sentSecond.ready
  alike := sentFirst.alike.trans sentSecond.alike
  waiting := sentSecond.waiting
  sent := by
    rw [sentSecond.sent, sentFirst.sent, sentFirst.alike.payload,
      Line.payload_append, List.append_assoc]

/-- An object that has sent a batch is ready for another one. -/
theorem Idle.next {chunks later : List Bytes} {object' : Object}
    (idle : Idle line Ready later object)
    (sent : Sent line Ready chunks object object') :
    Idle line Ready later object' where
  ready := sent.ready
  waiting := sent.waiting
  within := by
    rw [Line.withinWord_congr sent.alike
      (sent.waiting.trans idle.waiting.symm)]
    exact idle.within

/-- However the chunks are spread over batches, each object sends its own in
their order. -/
theorem runAll (buffering : Buffering loop chunkPackage line Ready)
    {batches : List (List (Nat × Bytes))} {objects : List Object}
    (idle : ∀ batch ∈ batches, ∀ chunk ∈ batch, ∃ object,
      objects[chunk.1]? = some object ∧
        ∀ batch ∈ batches, Idle line Ready (own chunk.1 batch) object) :
    ∃ after, loop.runAll (batches.map (packagesOf chunkPackage)) objects =
        .ok after ∧
      ∀ name object, objects[name]? = some object → Ready object →
        (line object).waiting = [] →
        (∀ batch ∈ batches, Idle line Ready (own name batch) object) →
        ∃ object', after[name]? = some object' ∧
          Sent line Ready (own name batches.flatten) object object' := by
  induction batches generalizing objects with
  | nil =>
      refine ⟨objects, rfl, ?_⟩
      intro name object found ready empty _
      exact ⟨object, found, ready, .refl _, empty, by simp⟩
  | cons batch batches ih =>
      obtain ⟨middle, ranFirst, first⟩ := buffering.run
        fun chunk isIn => by
          obtain ⟨object, found, isIdle⟩ :=
            idle batch List.mem_cons_self chunk isIn
          exact ⟨object, found, isIdle batch List.mem_cons_self⟩
      obtain ⟨after, ranRest, rest⟩ := ih (by
        intro later laterIn chunk isIn
        obtain ⟨object, found, isIdle⟩ :=
          idle later (List.mem_cons_of_mem _ laterIn) chunk isIn
        obtain ⟨object', found', sent⟩ :=
          first chunk.1 object found (isIdle batch List.mem_cons_self)
        refine ⟨object', found', ?_⟩
        intro other otherIn
        exact (isIdle other (List.mem_cons_of_mem _ otherIn)).next sent)
      refine ⟨after, ?_, ?_⟩
      · rw [DispatchLoop.runAll, List.map_cons, List.foldlM_cons, ranFirst]
        exact ranRest
      · intro name object found ready empty isIdle
        obtain ⟨object₁, found₁, sent₁⟩ :=
          first name object found (isIdle batch List.mem_cons_self)
        obtain ⟨object₂, found₂, sent₂⟩ :=
          rest name object₁ found₁ sent₁.ready sent₁.waiting
            fun other otherIn =>
              (isIdle other (List.mem_cons_of_mem _ otherIn)).next sent₁
        refine ⟨object₂, found₂, ?_⟩
        rw [List.flatten_cons, own_append]
        exact sent₁.append sent₂

end Buffering

end EchoServer
