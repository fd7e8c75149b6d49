import Mathlib.Data.List.Basic
import Mathlib.Logic.Relation
import Mathlib.Tactic.Common

/-!
# Loops with fuel

A `while` loop is given by what one pass of its body does: leave the loop or
go round again.  `runLoop` runs it for a bounded number of passes.  Where a
measure decreases, a bounded number of passes decides whether the loop ends.
-/

namespace EchoServer

namespace FuelledLoop

/-- What one pass of a loop body does. -/
inductive Pass (State : Type*)
  | leave (state : State)
  | again (state : State)

variable {State : Type*} (body : State → Pass State)

/-- Run a loop for at most `fuel` passes; `none` if it has not left by then. -/
def runLoop : Nat → State → Option State
  | 0, _ => none
  | fuel + 1, state =>
      match body state with
      | .leave final => some final
      | .again next => runLoop fuel next

variable {body}

theorem runLoop_leave {state final : State} (fuel : Nat)
    (left : body state = .leave final) :
    runLoop body (fuel + 1) state = some final := by
  simp [runLoop, left]

theorem runLoop_again {state next : State} (fuel : Nat)
    (continued : body state = .again next) :
    runLoop body (fuel + 1) state = runLoop body fuel next := by
  simp [runLoop, continued]

/-- If every pass decreases a measure or enters a part of the loop that never
leaves, a loop that has not left with enough fuel never leaves. -/
theorem runLoop_decided {Invariant : State → Prop} (measure : State → Nat)
    (progress : ∀ state next, Invariant state →
      body state = .again next →
        (Invariant next ∧ measure next < measure state) ∨
          ∀ fuel, runLoop body fuel next = none)
    {fuel : Nat} {state : State} (initially : Invariant state)
    (enough : measure state < fuel)
    (ran : runLoop body fuel state = none) (more : Nat) :
    runLoop body more state = none := by
  induction fuel generalizing state more with
  | zero => omega
  | succ fuel ih =>
      cases passed : body state with
      | leave final =>
          rw [runLoop_leave fuel passed] at ran
          exact absurd ran (by simp)
      | again next =>
          rw [runLoop_again fuel passed] at ran
          cases more with
          | zero => rfl
          | succ more =>
              rw [runLoop_again more passed]
              obtain ⟨nextHolds, smaller⟩ | stuck :=
                progress state next initially passed
              · exact ih nextHolds (by omega) ran more
              · exact stuck more

/-- The loop leaves after finitely many passes. -/
def Leaves (body : State → Pass State) (state : State) : Prop :=
  ∃ fuel final, runLoop body fuel state = some final

theorem leaves_of_leave {state final : State}
    (left : body state = .leave final) : Leaves body state :=
  ⟨1, final, runLoop_leave 0 left⟩

/-- Whether the loop leaves does not change with one more pass. -/
theorem leaves_again {state next : State}
    (continued : body state = .again next) :
    Leaves body state ↔ Leaves body next := by
  constructor
  · rintro ⟨fuel, final, ran⟩
    cases fuel with
    | zero => cases ran
    | succ fuel =>
        rw [runLoop_again fuel continued] at ran
        exact ⟨fuel, final, ran⟩
  · rintro ⟨fuel, final, ran⟩
    exact ⟨fuel + 1, final, (runLoop_again fuel continued).trans ran⟩

/-- If every pass that goes round again decreases a measure, the loop
leaves. -/
theorem leaves_of_measure (Invariant : State → Prop) (measure : State → Nat)
    (progress : ∀ state next, Invariant state →
      body state = .again next →
        Invariant next ∧ measure next < measure state)
    {state : State} (initially : Invariant state) : Leaves body state := by
  induction bound : measure state using Nat.strongRecOn
    generalizing state with
  | ind bound ih =>
      cases passed : body state with
      | leave final => exact leaves_of_leave passed
      | again next =>
          obtain ⟨nextHolds, smaller⟩ :=
            progress state next initially passed
          subst bound
          exact (leaves_again passed).mpr (ih _ smaller nextHolds rfl)

/-- The loop comes from one state to another by going round again. -/
def Reaches (body : State → Pass State) : State → State → Prop :=
  Relation.ReflTransGen fun state next => body state = .again next

/-- What every pass that goes round again preserves holds wherever the loop
comes to. -/
theorem Reaches.invariant {Invariant : State → Prop}
    (preserved : ∀ state next, Invariant state →
      body state = .again next → Invariant next)
    {state reached : State} (initially : Invariant state)
    (reaches : Reaches body state reached) : Invariant reached := by
  induction reaches with
  | refl => exact initially
  | tail _ passed ih => exact preserved _ _ ih passed

/-- A loop that ends was left in a state that it came to. -/
theorem reaches_of_runLoop {fuel : Nat} {state final : State}
    (ran : runLoop body fuel state = some final) :
    ∃ last, Reaches body state last ∧ body last = .leave final := by
  induction fuel generalizing state with
  | zero => cases ran
  | succ fuel ih =>
      cases passed : body state with
      | leave left =>
          rw [runLoop_leave fuel passed] at ran
          cases ran
          exact ⟨state, .refl, passed⟩
      | again next =>
          rw [runLoop_again fuel passed] at ran
          obtain ⟨last, reaches, left⟩ := ih ran
          exact ⟨last, .head passed reaches, left⟩

/-- Whether the loop leaves does not change on its way. -/
theorem Reaches.leaves_iff {state reached : State}
    (reaches : Reaches body state reached) :
    Leaves body state ↔ Leaves body reached := by
  induction reaches with
  | refl => rfl
  | tail _ passed ih => rw [ih, leaves_again passed]

end FuelledLoop

end EchoServer
