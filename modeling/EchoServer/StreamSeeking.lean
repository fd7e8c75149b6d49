import EchoServer.InsertionAtomicity
import EchoServer.LengthPrefixedReads
import EchoServer.LabelledRun

/-!
# Moving the cursor

`seekp` and `seekg` move the cursor first and test the new position then, so
that a seek that throws leaves the cursor outside the buffer, where the
comparisons of later reads and writes with the available space mean nothing.
`readcstring` uses `seekg` to go back when a string is too long; it goes back
over one length field, whichever form the length has.
-/

namespace EchoServer

open ByteOrder LabelledRun

/-- The position that a seek moves to. -/
def Bios.target (stream : Bios) (offset : Int) : SeekDir → Int
  | .beg => offset
  | .cur => stream.curr + offset
  | .«end» => stream.buffer.length + offset

/-- The seek that `seekp` and `seekg` share up to the exception they throw. -/
def seek (cause : BiosExceptionCode) (offset : Int) (dir : SeekDir) :
    StreamM Unit := fun stream =>
  let moved := { stream with curr := stream.target offset dir }
  if moved.avail < 0 ∨ moved.avail > moved.buffer.length then
    .error (.biosexception cause) moved
  else
    .ok () moved

/-- `bostream::seekp`. -/
def Bostream.seekp (offset : Int) (dir : SeekDir) : StreamM Unit :=
  seek .overflow offset dir

theorem seekg_eq (offset : Int) (dir : SeekDir) :
    Bistream.seekg offset dir = seek .«end» offset dir := by
  cases dir <;> rfl

/-- The types of fixed width. -/
inductive FixedType
  | integer (type : IntegerType)
  | floating (type : FloatingType)
  | bool

/-- `operator>>` for a variable of a type of fixed width. -/
def FixedValue.extract (model : DataModel) (host : Host) :
    FixedType → StreamM (FixedValue model)
  | .integer type => do
      return .integer type (← Bistream.extractInteger model host type)
  | .floating type => do
      return .floating type (.ofNat _ (← readUnsigned host (type.size model)))
  | .bool => do return .bool (← Bistream.extractBool model)

/-- What may be done with a stream. -/
inductive CursorAction (model : DataModel)
  | seekp (offset : Int) (dir : SeekDir)
  | seekg (offset : Int) (dir : SeekDir)
  | insert (value : FixedValue model)
  | extract (type : FixedType)

namespace CursorAction

variable {model : DataModel}

def run (host : Host) : CursorAction model → StreamM Unit
  | seekp offset dir => Bostream.seekp offset dir
  | seekg offset dir => Bistream.seekg offset dir
  | insert value => value.insert host
  | extract type => do
      let _ ← FixedValue.extract model host type
      return ()

/-- The action is done and an exception that it throws is caught: the stream
is used further as it is then. -/
def step (host : Host) (stream : Bios) (action : CursorAction model) :
    Except StreamStop Bios :=
  match action.run host stream with
  | .ok _ after => .ok after
  | .error (.biosexception _) after => .ok after
  | .error .outOfBounds _ => .error .outOfBounds

/-- If the action throws, it has not changed the stream. -/
def UnchangedIfThrown (host : Host) (stream : Bios)
    (action : CursorAction model) : Prop :=
  ∀ cause after,
    action.run host stream = .error (.biosexception cause) after →
      after = stream

/-- A seek goes to a position in the buffer or to its end. -/
def SeeksInside (stream : Bios) : CursorAction model → Prop
  | seekp offset dir | seekg offset dir =>
      0 ≤ stream.target offset dir ∧
        stream.target offset dir ≤ stream.buffer.length
  | _ => True

end CursorAction

/-- From a cursor within the buffer, an operation ends with the cursor within
the buffer, or throws and does nothing. -/
def MovesWithin {Value : Type} (operation : StreamM Value) : Prop :=
  ∀ stream : Bios, stream.Within →
    (∃ value after, operation stream = .ok value after ∧ after.Within) ∨
      ∃ cause, operation stream = .error (.biosexception cause) stream

section Moves

theorem MovesWithin.map {First Second : Type} {operation : StreamM First}
    (moves : MovesWithin operation) (function : First → Second) :
    MovesWithin (do return function (← operation)) := by
  intro stream within
  obtain ⟨value, after, ran, afterWithin⟩ | ⟨cause, thrown⟩ :=
    moves stream within
  · left
    refine ⟨function value, after, ?_, afterWithin⟩
    simp only [bind, EStateM.bind, ran, pure, EStateM.pure]
  · right
    exact ⟨cause, by simp only [bind, EStateM.bind, thrown]⟩

/-- An insertion that is one write. -/
theorem Fills.movesWithin {write : StreamM Unit} {size : Nat}
    (fills : Fills write size size) : MovesWithin write := by
  intro stream within
  by_cases short : stream.avail < size
  · exact .inr ⟨.overflow, fills.none stream short⟩
  · obtain ⟨after, ran, position, left⟩ :=
      fills.all stream within.1 (by omega)
    have notBefore := within.1
    refine .inl ⟨(), after, ran, by omega, ?_⟩
    simp only [Bios.avail] at left short
    omega

theorem movesWithin_read (model : DataModel) {len : Nat}
    (short : len < 2 ^ 31) : MovesWithin (Bistream.read model len) := by
  intro stream within
  have avail := within.avail_eq
  have notBefore := within.1
  unfold Bistream.read
  rw [model.toLong_of_lt short]
  by_cases noneLeft : stream.avail < len
  · exact .inr ⟨.«end», by rw [if_pos noneLeft]⟩
  · left
    refine ⟨stream.rest.take len, stream.advance len, ?_,
      within.advance (by omega)⟩
    rw [if_neg noneLeft, if_neg (by omega)]

theorem movesWithin_readUnsigned (host : Host) (width : Nat) :
    MovesWithin (readUnsigned host width) := by
  intro stream within
  have avail := within.avail_eq
  by_cases short : stream.avail < width
  · exact .inr ⟨.overflow, readUnsigned_short host width stream short⟩
  · left
    exact ⟨_, _, readUnsigned_eq host width stream within.1 (by omega),
      within.advance (show width ≤ _ by omega)⟩

theorem movesWithin_extractInteger (model : DataModel) (host : Host)
    (type : IntegerType) :
    MovesWithin (Bistream.extractInteger model host type) := by
  unfold Bistream.extractInteger
  split_ifs with isChar
  · have size := IntegerType.size_of_isChar model isChar
    exact (movesWithin_read model (by rw [size]; decide)).map _
  · exact (movesWithin_readUnsigned host _).map _

theorem movesWithin_extract (model : DataModel) (host : Host)
    (type : FixedType) : MovesWithin (FixedValue.extract model host type) := by
  cases type with
  | integer type => exact (movesWithin_extractInteger model host type).map _
  | floating type => exact (movesWithin_readUnsigned host _).map _
  | bool =>
      have one : MovesWithin (Bistream.read model 1) :=
        movesWithin_read model (by decide)
      exact (one.map fun bytes : Bytes => decide (bytes ≠ [0])).map _

/-- A seek moves the cursor in any case. -/
theorem seek_eq (cause : BiosExceptionCode) (offset : Int) (dir : SeekDir)
    (stream : Bios) :
    seek cause offset dir stream =
      if 0 ≤ stream.target offset dir ∧
          stream.target offset dir ≤ stream.buffer.length then
        .ok () { stream with curr := stream.target offset dir }
      else
        .error (.biosexception cause)
          { stream with curr := stream.target offset dir } := by
  by_cases inside : 0 ≤ stream.target offset dir ∧
      stream.target offset dir ≤ stream.buffer.length
  · rw [if_pos inside]
    refine if_neg ?_
    simp only [Bios.avail]
    omega
  · rw [if_neg inside]
    refine if_pos ?_
    simp only [Bios.avail]
    omega

end Moves

namespace CursorAction

variable {model : DataModel} {host : Host} {stream : Bios}

/-- What a seek does as an action. -/
theorem step_seek {action : CursorAction model} {cause : BiosExceptionCode}
    {offset : Int} {dir : SeekDir}
    (runs : action.run host = seek cause offset dir) :
    ((∃ next, step host stream action = .ok next ∧ next.Within) ↔
        0 ≤ stream.target offset dir ∧
          stream.target offset dir ≤ stream.buffer.length) ∧
      (0 ≤ stream.target offset dir ∧
          stream.target offset dir ≤ stream.buffer.length →
        action.UnchangedIfThrown host stream) := by
  have outcome := seek_eq cause offset dir stream
  by_cases inside : 0 ≤ stream.target offset dir ∧
      stream.target offset dir ≤ stream.buffer.length
  · rw [if_pos inside] at outcome
    refine ⟨iff_of_true ?_ inside, fun _ => ?_⟩
    · refine ⟨{ stream with curr := stream.target offset dir }, ?_, inside⟩
      rw [step, runs, outcome]
    · intro thrown after ran
      rw [runs, outcome] at ran
      cases ran
  · rw [if_neg inside] at outcome
    refine ⟨iff_of_false ?_ inside, fun met => absurd met inside⟩
    rintro ⟨next, stepped, nextWithin⟩
    rw [step, runs, outcome] at stepped
    cases stepped
    exact inside nextWithin

/-- An action that is no seek keeps the cursor within the buffer. -/
theorem step_movesWithin (within : stream.Within)
    {action : CursorAction model} (moves : MovesWithin (action.run host)) :
    (∃ next, step host stream action = .ok next ∧ next.Within) ∧
      action.UnchangedIfThrown host stream := by
  obtain ⟨value, after, ran, afterWithin⟩ | ⟨cause, thrown⟩ :=
    moves stream within
  · refine ⟨⟨after, by rw [step, ran], afterWithin⟩, ?_⟩
    intro cause other thrown
    rw [ran] at thrown
    cases thrown
  · refine ⟨⟨stream, by rw [step, thrown], within⟩, ?_⟩
    intro other after ran
    rw [thrown] at ran
    cases ran
    rfl

/-- From a cursor within the buffer, it is exactly the seeks out of the buffer
that lose it, and no other action that throws has moved it. -/
theorem step_within_iff (within : stream.Within)
    (action : CursorAction model) :
    ((∃ next, step host stream action = .ok next ∧ next.Within) ↔
        action.SeeksInside stream) ∧
      (action.SeeksInside stream → action.UnchangedIfThrown host stream) := by
  cases action with
  | seekp offset dir => exact step_seek rfl
  | seekg offset dir => exact step_seek (seekg_eq offset dir)
  | insert value =>
      obtain ⟨size, fills⟩ := value.fills host
      have moves : MovesWithin ((insert value).run host) := fills.movesWithin
      obtain ⟨stays, unchanged⟩ := step_movesWithin within moves
      exact ⟨iff_of_true stays trivial, fun _ => unchanged⟩
  | extract type =>
      have moves : MovesWithin ((extract type : CursorAction model).run host) :=
        (movesWithin_extract model host type).map fun _ => ()
      obtain ⟨stays, unchanged⟩ := step_movesWithin within moves
      exact ⟨iff_of_true stays trivial, fun _ => unchanged⟩

end CursorAction

/-- The cursor stays within the buffer, and no operation that throws has
changed the stream, exactly in the runs in which every seek goes to a position
in the buffer. -/
theorem cursor_within_iff {model : DataModel} (host : Host) (stream : Bios)
    (within : stream.Within) (actions : List (CursorAction model)) :
    HoldsThroughout (CursorAction.step host) Bios.Within stream actions ∧
        MeetsAlong (CursorAction.step host)
          (CursorAction.UnchangedIfThrown host) stream actions ↔
      MeetsAlong (CursorAction.step host) CursorAction.SeeksInside stream
        actions := by
  have exact_step : ∀ (state : Bios) (action : CursorAction model),
      state.Within →
        ((∃ next, CursorAction.step host state action = .ok next ∧
            next.Within) ↔
          action.SeeksInside state) := by
    intro state action stateWithin
    exact (CursorAction.step_within_iff stateWithin action).1
  rw [holdsThroughout_iff exact_step within, and_iff_left_iff_imp]
  apply MeetsAlong.of_invariant _ _ within
  · apply preserved_of_steps
    intro state action stateWithin met
    exact (exact_step state action stateWithin).mpr met
  · intro state action stateWithin met
    exact (CursorAction.step_within_iff stateWithin action).2 met

/-- A number is written at the end of a buffer and read again. -/
def rewound : List (CursorAction .lp64) :=
  [.seekp (-1) .«end», .insert (.integer .char 7), .seekg (-1) .cur,
    .extract (.integer .char)]

theorem cursor_within_rewound :
    HoldsThroughout (CursorAction.step .little) Bios.Within
          (Bios.attach [0, 0, 0, 0] false) rewound ∧
        MeetsAlong (CursorAction.step .little)
          (CursorAction.UnchangedIfThrown .little)
          (Bios.attach [0, 0, 0, 0] false) rewound ↔
      MeetsAlong (CursorAction.step .little) CursorAction.SeeksInside
        (Bios.attach [0, 0, 0, 0] false) rewound :=
  cursor_within_iff .little _ (Bios.attach_within _ _) _

/-- A seek in front of the buffer, whose exception is caught, and an
insertion. -/
def seekBefore : List (CursorAction .lp64) :=
  [.seekp (-1) .beg, .insert (.integer .char 7)]

/-- The insertion writes in front of the buffer. -/
theorem cursor_within_seekBefore :
    ¬ HoldsThroughout (CursorAction.step .little) Bios.Within
        (Bios.attach [0] false) seekBefore ∧
      runActions (CursorAction.step .little) (Bios.attach [0] false)
          seekBefore =
        .error .outOfBounds := by
  refine ⟨?_, rfl⟩
  intro holds
  obtain ⟨reached, ran, -⟩ := holds seekBefore [] rfl
  cases ran

section Rollback

variable {model : DataModel} {stream : Bios}

end Rollback

end EchoServer
