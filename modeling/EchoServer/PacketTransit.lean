import EchoServer.LengthPrefixedFraming

/-!
# Packets on their way

What a sender writes as packets travels as bytes and is split into packets
again by the receiver.  Of the packets on the way, the first ones wait, whole,
in a queue of the receiver; the others are the stream in front of the place
where packets are split off.
-/

namespace EchoServer

namespace Framing

variable {α : Type*} {format : Format α}

namespace Format

/-- Every packet begins with a header that announces its own length. -/
def Announces (format : Format α) (packets : List (List α)) : Prop :=
  ∀ packet ∈ packets, 0 < packet.length ∧
    format.announced packet = some packet.length

/-- A part of a packet is no frame. -/
theorem firstFrame_of_part {packet items : List α}
    (announced : format.announced packet = some packet.length)
    (part : items <+: packet) (short : items.length < packet.length) :
    format.firstFrame items = none := by
  cases found : format.firstFrame items with
  | none => rfl
  | some size =>
      obtain ⟨announcement, -, fits⟩ := firstFrame_eq_some.mp found
      obtain ⟨more, rfl⟩ := part
      have whole := format.announced_append more announcement
      rw [announced] at whole
      obtain rfl := Option.some.inj whole
      omega

theorem firstFrame_of_packet {packet : List α} (more : List α)
    (positive : 0 < packet.length)
    (announced : format.announced packet = some packet.length) :
    format.firstFrame (packet ++ more) = some packet.length :=
  firstFrame_append more
    (firstFrame_eq_some.mpr ⟨announced, positive, Nat.le_refl _⟩)

/-- What is split off the beginning of a stream of packets are packets, and
what is left begins the others. -/
theorem frames_of_packets {packets : List (List α)}
    (announces : format.Announces packets) {items more : List α}
    (stream : packets.flatten = items ++ more) :
    ∃ rest, packets = format.frames items ++ rest ∧
      rest.flatten = format.tail items ++ more := by
  induction packets generalizing items with
  | nil =>
      obtain ⟨rfl, rfl⟩ := List.append_eq_nil_iff.mp stream.symm
      exact ⟨[], rfl, rfl⟩
  | cons packet packets ih =>
      obtain ⟨positive, announced⟩ := announces packet List.mem_cons_self
      rw [List.flatten_cons] at stream
      have packetFirst : packet <+: items ++ more := ⟨_, stream⟩
      have itemsFirst : items <+: items ++ more := ⟨more, rfl⟩
      by_cases whole : packet.length ≤ items.length
      · obtain ⟨behind, rfl⟩ :=
          List.prefix_of_prefix_length_le packetFirst itemsFirst whole
        rw [List.append_assoc] at stream
        obtain ⟨rest, packetsEq, restEq⟩ := ih
          (fun other member => announces other (List.mem_cons_of_mem _ member))
          (List.append_cancel_left stream)
        have split := greedySplit_some
          (firstFrame_of_packet behind positive announced)
        rw [List.take_left, List.drop_left] at split
        refine ⟨rest, ?_, ?_⟩
        · rw [frames, split, List.cons_append, ← packetsEq]
        · rw [tail, split, restEq]
      · have part := List.prefix_of_prefix_length_le itemsFirst packetFirst
          (Nat.le_of_not_le whole)
        have split := greedySplit_none
          (firstFrame_of_part announced part (Nat.lt_of_not_le whole))
        refine ⟨packet :: packets, ?_, ?_⟩
        · rw [frames, split]
          rfl
        · rw [tail, split, List.flatten_cons, stream]

end Format

/-- The packets on the way: the first ones wait in a queue, and the others are
the stream. -/
def OnTheWay (packets queue : List (List α)) (stream : List α) : Prop :=
  ∃ rest, packets = queue ++ rest ∧ rest.flatten = stream

namespace OnTheWay

variable {packets queue : List (List α)} {stream : List α}

theorem nothing : OnTheWay ([] : List (List α)) [] [] :=
  ⟨[], rfl, rfl⟩

/-- A packet is written to the stream. -/
theorem write (way : OnTheWay packets queue stream) (packet : List α) :
    OnTheWay (packets ++ [packet]) queue (stream ++ packet) := by
  obtain ⟨rest, rfl, rfl⟩ := way
  exact ⟨rest ++ [packet], List.append_assoc _ _ _, List.flatten_concat⟩

/-- Packets are split off the beginning of the stream. -/
theorem split {items more : List α}
    (way : OnTheWay packets queue (items ++ more))
    (announces : format.Announces packets) :
    OnTheWay packets (queue ++ format.frames items)
      (format.tail items ++ more) := by
  obtain ⟨rest, rfl, restEq⟩ := way
  obtain ⟨later, rfl, laterEq⟩ := Format.frames_of_packets
    (fun packet member => announces packet (List.mem_append_right _ member))
    restEq
  exact ⟨later, (List.append_assoc _ _ _).symm, laterEq⟩

/-- The first packet of the queue is taken. -/
theorem take {packet : List α}
    (way : OnTheWay packets (packet :: queue) stream) :
    ∃ later, packets = packet :: later ∧ OnTheWay later queue stream := by
  obtain ⟨rest, rfl, restEq⟩ := way
  exact ⟨queue ++ rest, rfl, rest, rfl, restEq⟩

/-- No packet is on the way if none waits and the stream is shorter than a
packet. -/
theorem arrived {size : Nat} (way : OnTheWay packets [] stream)
    (sizes : ∀ packet ∈ packets, packet.length = size)
    (short : stream.length < size) : packets = [] := by
  obtain ⟨rest, packetsEq, rfl⟩ := way
  rw [List.nil_append] at packetsEq
  subst packetsEq
  cases packets with
  | nil => rfl
  | cons packet packets =>
      have length := sizes packet List.mem_cons_self
      simp only [List.flatten_cons, List.length_append] at short
      omega

end OnTheWay

namespace OnTheWay

variable {packets queue : List (List α)} {items more : List α}

/-- What is left behind the packets split off is nothing, or a part of a
packet. -/
theorem tail_part (way : OnTheWay packets queue (items ++ more))
    (announces : format.Announces packets) :
    format.tail items = [] ∨ ∃ packet ∈ packets,
      format.tail items <+: packet ∧
        (format.tail items).length < packet.length := by
  obtain ⟨rest, rfl, restEq⟩ := way.split announces
  cases rest with
  | nil => exact .inl (List.append_eq_nil_iff.mp restEq.symm).1
  | cons packet rest =>
      obtain ⟨nonempty, announced⟩ := announces packet (by simp)
      rw [List.flatten_cons] at restEq
      have packetFirst : packet <+: format.tail items ++ more := ⟨_, restEq⟩
      have tailFirst : format.tail items <+: format.tail items ++ more :=
        ⟨more, rfl⟩
      have short : (format.tail items).length < packet.length := by
        by_contra long
        obtain ⟨behind, tailEq⟩ := List.prefix_of_prefix_length_le
          packetFirst tailFirst (Nat.le_of_not_lt long)
        have incomplete : format.firstFrame (format.tail items) = none :=
          Format.firstFrame_tail items
        rw [← tailEq, Format.firstFrame_of_packet behind nonempty announced]
          at incomplete
        cases incomplete
      exact .inr ⟨packet, by simp, List.prefix_of_prefix_length_le tailFirst
        packetFirst (Nat.le_of_lt short), short⟩

theorem tail_short {size : Nat}
    (way : OnTheWay packets queue (items ++ more))
    (announces : format.Announces packets)
    (sizes : ∀ packet ∈ packets, packet.length = size)
    (positive : 0 < size) : (format.tail items).length < size := by
  rcases way.tail_part announces with empty | ⟨packet, isIn, -, short⟩
  · rw [empty]
    exact positive
  · exact Nat.lt_of_lt_of_eq short (sizes packet isIn)

/-- All headers in the beginning of a stream of packets announce
something. -/
theorem headersSatisfy (way : OnTheWay packets queue (items ++ more))
    (announces : format.Announces packets)
    (silent : format.announced [] = none) :
    format.HeadersSatisfy (0 < ·) items := by
  constructor
  · exact fun frame isIn => (Format.frame_length frame isIn).1
  · intro size announcement
    rcases way.tail_part announces with empty | ⟨packet, isIn, part, -⟩
    · rw [empty, silent] at announcement
      cases announcement
    · obtain ⟨positive, announced⟩ := announces packet isIn
      obtain ⟨behind, rfl⟩ := part
      have whole := format.announced_append behind announcement
      rw [announced] at whole
      obtain rfl := Option.some.inj whole
      exact positive

end OnTheWay

end Framing

end EchoServer
