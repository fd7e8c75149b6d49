import Mathlib.Tactic.Common

/-!
# Computations that may stop with a fault

Sequences of such computations, taken apart: where a sequence succeeds, each
of its parts has; and where no part can stop with a fault of some kind, the
sequence cannot either.
-/

namespace EchoServer

namespace FaultingComputation

variable {Fault α β : Type*}

/-- A computation that does not stop with a fault of some kind. -/
def Avoids (bad : Fault → Prop) (computation : Except Fault α) : Prop :=
  ∀ fault, computation = .error fault → ¬ bad fault

variable {bad : Fault → Prop}

@[simp]
theorem avoids_ok (result : α) :
    Avoids bad (.ok result : Except Fault α) := by
  intro fault failed
  cases failed

@[simp]
theorem avoids_error (fault : Fault) :
    Avoids bad (.error fault : Except Fault α) ↔ ¬ bad fault := by
  constructor
  · intro avoids
    exact avoids fault rfl
  · rintro harmless other failed
    cases failed
    exact harmless

section Sequence

universe u

variable {α β : Type u} {first : Except Fault α}
variable {second : α → Except Fault β}

/-- A sequence succeeds if each of its parts does. -/
theorem bind_ok {result : β} (ran : first >>= second = .ok result) :
    ∃ middle, first = .ok middle ∧ second middle = .ok result := by
  cases first with
  | error fault => cases ran
  | ok middle => exact ⟨middle, rfl, ran⟩

/-- A sequence stops with a fault that one of its parts stops with. -/
theorem Avoids.bind (firstAvoids : Avoids bad first)
    (secondAvoids : ∀ middle, first = .ok middle →
      Avoids bad (second middle)) :
    Avoids bad (first >>= second) := by
  cases first with
  | error fault =>
      rintro other failed
      cases failed
      exact firstAvoids fault rfl
  | ok middle => exact secondAvoids middle rfl

end Sequence

end FaultingComputation

end EchoServer
