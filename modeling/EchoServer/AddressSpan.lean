import Mathlib.Data.List.Basic

/-!
# Spans of addresses

A span is a run of consecutive addresses.  Spans that lie inside spans that
are apart are apart themselves, and the pieces that a span is carved into are
apart from each other.
-/

namespace EchoServer

@[ext]
structure Span where
  start : Nat
  size : Nat
  deriving DecidableEq

namespace Span

/-- The first address behind the span. -/
def stop (span : Span) : Nat :=
  span.start + span.size

/-- Two spans share no address. -/
def Apart (first second : Span) : Prop :=
  first.stop ≤ second.start ∨ second.stop ≤ first.start

def Inside (inner outer : Span) : Prop :=
  outer.start ≤ inner.start ∧ inner.stop ≤ outer.stop

variable {first second inner other : Span}

theorem Apart.symm (apart : first.Apart second) : second.Apart first :=
  Or.symm apart

theorem Inside.refl (span : Span) : span.Inside span :=
  ⟨Nat.le_refl _, Nat.le_refl _⟩

theorem Apart.of_inside (apart : first.Apart second)
    (inFirst : inner.Inside first) (inSecond : other.Inside second) :
    inner.Apart other := by
  obtain ⟨firstStart, firstStop⟩ := inFirst
  obtain ⟨secondStart, secondStop⟩ := inSecond
  rcases apart with before | behind
  · exact .inl (Nat.le_trans firstStop (Nat.le_trans before secondStart))
  · exact .inr (Nat.le_trans secondStop (Nat.le_trans behind firstStart))

theorem Apart.start_ne (apart : first.Apart second)
    (firstNonempty : 0 < first.size) (secondNonempty : 0 < second.size) :
    first.start ≠ second.start := by
  unfold Apart stop at apart
  omega

/-- The starts of `count` pieces of a size, one behind the other. -/
def carve (size : Nat) : Nat → Nat → List Nat
  | _, 0 => []
  | base, count + 1 => base :: carve size (base + size) count

theorem carve_inside {size base count start : Nat}
    (carved : start ∈ carve size base count) :
    (Span.mk start size).Inside ⟨base, size * count⟩ := by
  induction count generalizing base with
  | zero => cases carved
  | succ count ih =>
      simp only [Inside, stop, Nat.mul_succ] at ih ⊢
      rcases List.mem_cons.mp carved with rfl | behind
      · omega
      · have := ih behind
        omega

theorem carve_nodup {size : Nat} (positive : 0 < size) (base count : Nat) :
    (carve size base count).Nodup := by
  induction count generalizing base with
  | zero => exact List.nodup_nil
  | succ count ih =>
      refine List.nodup_cons.mpr ⟨?_, ih (base + size)⟩
      intro again
      have behind := (carve_inside again).1
      simp only at behind
      omega

theorem carve_apart {size base count firstStart secondStart : Nat}
    (firstCarved : firstStart ∈ carve size base count)
    (secondCarved : secondStart ∈ carve size base count)
    (different : firstStart ≠ secondStart) :
    (Span.mk firstStart size).Apart ⟨secondStart, size⟩ := by
  induction count generalizing base with
  | zero => cases firstCarved
  | succ count ih =>
      rcases List.mem_cons.mp firstCarved with rfl | firstBehind
      · rcases List.mem_cons.mp secondCarved with rfl | secondBehind
        · exact absurd rfl different
        · exact .inl (carve_inside secondBehind).1
      · rcases List.mem_cons.mp secondCarved with rfl | secondBehind
        · exact .inr (carve_inside firstBehind).1
        · exact ih firstBehind secondBehind

end Span

end EchoServer
