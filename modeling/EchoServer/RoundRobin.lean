import Mathlib.Algebra.BigOperators.Group.Finset.Piecewise
import Mathlib.Data.Int.CardIntervalMod

/-!
# Dealing in turn

Items are dealt to members in turn, from the first member on and around again.
Each member's share differs from another's by one at most.
-/

namespace EchoServer

namespace RoundRobin

/-- How many of the items a member gets. -/
def share (members items member : Nat) : Nat :=
  if member < members then
    items / members + if member < items % members then 1 else 0
  else
    0

/-- The turn behind a turn. -/
def nextTurn (members turn : Nat) : Nat :=
  if turn + 1 ≥ members then 0 else turn + 1

theorem share_zero (members member : Nat) : share members 0 member = 0 := by
  simp [share]

theorem share_of_le {members member : Nat} (beyond : members ≤ member)
    (items : Nat) : share members items member = 0 :=
  if_neg (Nat.not_lt.mpr beyond)

/-- A share is the number of turns that are the member's. -/
theorem share_eq_count {members member : Nat} (isMember : member < members)
    (items : Nat) :
    share members items member =
      Nat.count (· ≡ member [MOD members]) items := by
  have some : 0 < members := Nat.zero_lt_of_lt isMember
  rw [Nat.count_modEq_card items some, Nat.mod_eq_of_lt isMember, share,
    if_pos isMember]

/-- One more item goes to the member whose turn it is. -/
theorem share_succ {members : Nat} (some : 0 < members)
    (items member : Nat) :
    share members (items + 1) member =
      share members items member +
        if items % members = member then 1 else 0 := by
  by_cases isMember : member < members
  · have turn : items ≡ member [MOD members] ↔ items % members = member := by
      rw [Nat.ModEq, Nat.mod_eq_of_lt isMember]
    rw [share_eq_count isMember, share_eq_count isMember, Nat.count_succ]
    simp only [turn]
  · have inRange := Nat.mod_lt items some
    have notTurn : items % members ≠ member := by omega
    have beyond := Nat.not_lt.mp isMember
    rw [share_of_le beyond, share_of_le beyond, if_neg notTurn]

/-- Nothing is dealt twice and nothing is left over. -/
theorem sum_share {members : Nat} (some : 0 < members) (items : Nat) :
    ∑ member ∈ Finset.range members, share members items member =
      items := by
  induction items with
  | zero => simp only [share_zero, Finset.sum_const_zero]
  | succ items ih =>
      have turn : items % members ∈ Finset.range members :=
        Finset.mem_range.mpr (Nat.mod_lt items some)
      simp only [share_succ some, Finset.sum_add_distrib, ih,
        Finset.sum_ite_eq, if_pos turn]

theorem share_le {members first second : Nat} (isMember : first < members)
    (isOther : second < members) (items : Nat) :
    share members items first ≤ share members items second + 1 := by
  rw [share, share, if_pos isMember, if_pos isOther]
  split_ifs <;> omega

theorem nextTurn_mod {members : Nat} (some : 0 < members) (items : Nat) :
    nextTurn members (items % members) = (items + 1) % members := by
  have inRange := Nat.mod_lt items some
  rw [← Nat.mod_add_mod items members 1, nextTurn]
  split_ifs with around
  · have last : items % members + 1 = members := by omega
    rw [last, Nat.mod_self]
  · rw [Nat.mod_eq_of_lt (Nat.not_le.mp around)]

end RoundRobin

end EchoServer
