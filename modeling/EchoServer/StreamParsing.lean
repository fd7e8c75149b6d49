import EchoServer.ByteOrder

/-!
# Parsing a stream that is still arriving

A parser takes one item from the front of a byte string.  If what it finds
stays the same when more bytes come, a reader may parse whatever part of a
stream has arrived: it finds the items that are complete there, and no others.
-/

namespace EchoServer

namespace StreamParsing

variable {Item : Type}

/-- A parser finds valid items in front of anything, nothing where there is
nothing, and the same again when more bytes have come. -/
structure Incremental (encode : Item → Bytes)
    (parse : Bytes → Option (Item × Bytes)) (Valid : Item → Prop) : Prop where
  nothing : parse [] = none
  front : ∀ item, Valid item → ∀ rest,
    parse (encode item ++ rest) = some (item, rest)
  more : ∀ bytes item rest, parse bytes = some (item, rest) → ∀ more,
    parse (bytes ++ more) = some (item, rest ++ more)

/-- The items at the front of a byte string, at most so many, and the bytes
behind them. -/
def takeItems (parse : Bytes → Option (Item × Bytes)) :
    Nat → Bytes → List Item × Bytes
  | 0, bytes => ([], bytes)
  | count + 1, bytes =>
      match parse bytes with
      | none => ([], bytes)
      | some (item, rest) =>
          let (items, left) := takeItems parse count rest
          (item :: items, left)

namespace Incremental

variable {encode : Item → Bytes} {parse : Bytes → Option (Item × Bytes)}
variable {Valid : Item → Prop} {items : List Item}

theorem encode_ne_nil (incremental : Incremental encode parse Valid)
    {item : Item} (valid : Valid item) : encode item ≠ [] := by
  intro empty
  have found := incremental.front item valid []
  rw [empty, List.append_nil, incremental.nothing] at found
  cases found

/-- A part of an item is not an item. -/
theorem parse_part (incremental : Incremental encode parse Valid)
    {item : Item} (valid : Valid item) {part : Bytes}
    (isPart : part <+: encode item) (proper : part ≠ encode item) :
    parse part = none := by
  obtain ⟨missing, whole⟩ := isPart
  cases found : parse part with
  | none => rfl
  | some result =>
      obtain ⟨other, rest⟩ := result
      have again := incremental.more part other rest found missing
      have front := incremental.front item valid []
      rw [List.append_nil, ← whole, again] at front
      have none : rest ++ missing = [] :=
        congrArg Prod.snd (Option.some.inj front)
      rw [(List.append_eq_nil_iff.mp none).2, List.append_nil] at whole
      exact absurd whole proper

/-- Whole items, and behind them no other. -/
theorem takeItems_eq (incremental : Incremental encode parse Valid)
    (valid : ∀ item ∈ items, Valid item) {left : Bytes}
    (behind : parse left = none) {count : Nat}
    (enough : items.length ≤ count) :
    takeItems parse count (items.flatMap encode ++ left) = (items, left) := by
  induction items generalizing count with
  | nil =>
      cases count with
      | zero => rfl
      | succ count =>
          rw [List.flatMap_nil, List.nil_append, takeItems, behind]
  | cons item items ih =>
      cases count with
      | zero => cases enough
      | succ count =>
          have found := incremental.front item (valid item List.mem_cons_self)
            (items.flatMap encode ++ left)
          have rest := ih
            (fun other isIn => valid other (List.mem_cons_of_mem item isIn))
            (Nat.le_of_succ_le_succ enough)
          rw [List.flatMap_cons, List.append_assoc, takeItems, found]
          simp only [rest]

/-- What has arrived of a stream is some of its items and a part of the
next. -/
theorem prefix_eq (incremental : Incremental encode parse Valid)
    (valid : ∀ item ∈ items, Valid item) {arrived : Bytes}
    (isPrefix : arrived <+: items.flatMap encode) :
    ∃ front left, front <+: items ∧
      arrived = front.flatMap encode ++ left ∧ parse left = none := by
  induction items generalizing arrived with
  | nil =>
      obtain rfl := List.prefix_nil.mp isPrefix
      exact ⟨[], [], List.prefix_rfl, rfl, incremental.nothing⟩
  | cons item items ih =>
      have itemValid := valid item List.mem_cons_self
      rw [List.flatMap_cons] at isPrefix
      by_cases whole : encode item <+: arrived
      · obtain ⟨rest, rfl⟩ := whole
        obtain ⟨front, left, isFront, restEq, behind⟩ := ih
          (fun other isIn => valid other (List.mem_cons_of_mem item isIn))
          ((List.prefix_append_right_inj _).mp isPrefix)
        refine ⟨item :: front, left, ?_, ?_, behind⟩
        · exact (List.prefix_cons_inj item).mpr isFront
        · rw [List.flatMap_cons, List.append_assoc, ← restEq]
      · have isPart : arrived <+: encode item :=
          (List.prefix_or_prefix_of_prefix isPrefix
            (List.prefix_append _ _)).resolve_right whole
        refine ⟨[], arrived, List.nil_prefix, rfl, ?_⟩
        apply incremental.parse_part itemValid isPart
        rintro rfl
        exact whole List.prefix_rfl

theorem length_le_flatMap (incremental : Incremental encode parse Valid)
    (valid : ∀ item ∈ items, Valid item) :
    items.length ≤ (items.flatMap encode).length := by
  induction items with
  | nil => exact Nat.le_refl 0
  | cons item items ih =>
      have rest := ih fun other isIn =>
        valid other (List.mem_cons_of_mem item isIn)
      have nonempty := List.length_pos_iff.mpr
        (incremental.encode_ne_nil (valid item List.mem_cons_self))
      rw [List.flatMap_cons, List.length_append, List.length_cons]
      omega

/-- From whatever has arrived of a stream, a reader takes the items that are
complete there. -/
theorem takeItems_of_prefix (incremental : Incremental encode parse Valid)
    (valid : ∀ item ∈ items, Valid item) {arrived : Bytes}
    (isPrefix : arrived <+: items.flatMap encode) :
    ∃ front left,
      takeItems parse arrived.length arrived = (front, left) ∧
        front <+: items ∧ arrived = front.flatMap encode ++ left ∧
        parse left = none ∧
        (arrived = items.flatMap encode → front = items ∧ left = []) := by
  obtain ⟨front, left, isFront, arrivedEq, behind⟩ :=
    incremental.prefix_eq valid isPrefix
  have frontValid : ∀ item ∈ front, Valid item :=
    fun item isIn => valid item (isFront.subset isIn)
  have enough : front.length ≤ arrived.length := by
    rw [arrivedEq, List.length_append]
    exact Nat.le_add_right_of_le (incremental.length_le_flatMap frontValid)
  refine ⟨front, left, ?_, isFront, arrivedEq, behind, ?_⟩
  · have taken := incremental.takeItems_eq frontValid behind enough
    rwa [← arrivedEq] at taken
  · intro whole
    obtain ⟨rest, rfl⟩ := isFront
    rw [arrivedEq, List.flatMap_append] at whole
    have leftEq : left = rest.flatMap encode := List.append_cancel_left whole
    cases rest with
    | nil => exact ⟨(List.append_nil front).symm, leftEq⟩
    | cons item rest =>
        have itemValid := valid item
          (List.mem_append_right front List.mem_cons_self)
        have found := incremental.front item itemValid (rest.flatMap encode)
        rw [← List.flatMap_cons, ← leftEq, behind] at found
        cases found

end Incremental

end StreamParsing

end EchoServer
