import Mathlib.Algebra.Group.Int.Defs
import Mathlib.Algebra.Group.Nat.Defs
import Mathlib.Data.List.Basic
import Mathlib.Tactic.Common

/-!
# Loops that take items from a queue up to a limit

A loop `while ((dealCount++) <= limit)` takes the item at the front of a queue
in every round, and leaves when the queue is empty.  The counter is an `int`.
As it is compared before it is incremented, the loop can take one item more
than the limit.
-/

namespace EchoServer

/-- What goes wrong in a call: a branch, or the counter leaves the range of
`int`. -/
inductive QueueFault (Fault : Type)
  | branch (fault : Fault)
  | countOverflow

/-- What a loop does with its state: `takeOne` takes the item at the front of
the queue and deals with it, and `finish` stands behind the loop. -/
structure QueueLoop (Fault Item Choice State : Type) where
  queue : State → List Item
  takeOne : Choice → State → Except Fault State
  finish : State → Except Fault State

namespace QueueLoop

variable {Fault Item Choice State : Type}
variable (loop : QueueLoop Fault Item Choice State)
variable (limit : Int) (choice : Nat → Choice)

/-- The loop, from the comparison with a value of the counter on: the items
taken, and the state. -/
def rounds (dealCount : Int) (taken : List Item) (state : State) :
    Except (QueueFault Fault) (List Item × State) :=
  if 2 ^ 31 - 1 ≤ dealCount then .error .countOverflow
  else if dealCount ≤ limit then
    match loop.queue state with
    | [] => .ok (taken, state)
    | item :: _ =>
        match loop.takeOne (choice taken.length) state with
        | .error fault => .error (.branch fault)
        | .ok next => rounds (dealCount + 1) (taken ++ [item]) next
  else .ok (taken, state)
termination_by (limit + 1 - dealCount).toNat

/-- The loop with what stands behind it. -/
def call (state : State) : Except (QueueFault Fault) (List Item × State) :=
  match loop.rounds limit choice 0 [] state with
  | .error fault => .error fault
  | .ok (taken, state) =>
      match loop.finish state with
      | .error fault => .error (.branch fault)
      | .ok state => .ok (taken, state)

/-- No branch goes wrong in the call. -/
def BranchesReturn (state : State) : Prop :=
  ∀ fault, loop.call limit choice state ≠ .error (.branch fault)

/-- The call takes as many items as there are, up to the limit, from the front
of the queue, and leaves the rest in order. -/
def TakesUpTo (state : State) : Prop :=
  ∃ taken after, loop.call limit choice state = .ok (taken, after) ∧
    taken = (loop.queue state).take
        (min limit.toNat (loop.queue state).length) ∧
      loop.queue after = (loop.queue state).drop
        (min limit.toNat (loop.queue state).length)

/-- Nothing is pushed: an item leaves the queue when it is taken, and nothing
else changes the queue. -/
structure Pops : Prop where
  takeOne : ∀ choice state next item rest, loop.queue state = item :: rest →
    loop.takeOne choice state = .ok next → loop.queue next = rest
  finish : ∀ state next, loop.finish state = .ok next →
    loop.queue next = loop.queue state

/-- The number of items that are taken from the comparison with a value of the
counter on. -/
def amount (dealCount : Int) (queue : List Item) : Nat :=
  min (limit + 1 - dealCount).toNat queue.length

variable {loop limit choice}

theorem amount_nil (dealCount : Int) :
    amount limit dealCount ([] : List Item) = 0 :=
  Nat.min_zero _

theorem amount_cons {dealCount : Int} (within : dealCount ≤ limit)
    (item : Item) (rest : List Item) :
    amount limit dealCount (item :: rest) =
      amount limit (dealCount + 1) rest + 1 := by
  rw [amount, amount, List.length_cons]
  omega

theorem amount_behind {dealCount : Int} (behind : ¬ dealCount ≤ limit)
    (queue : List Item) : amount limit dealCount queue = 0 := by
  rw [amount]
  omega

section Rounds

variable {dealCount : Int} {taken : List Item} {state : State}

theorem rounds_overflow (overflows : 2 ^ 31 - 1 ≤ dealCount) :
    loop.rounds limit choice dealCount taken state =
      .error .countOverflow := by
  rw [rounds, if_pos overflows]

theorem rounds_behind (counts : ¬ 2 ^ 31 - 1 ≤ dealCount)
    (behind : ¬ dealCount ≤ limit) :
    loop.rounds limit choice dealCount taken state = .ok (taken, state) := by
  rw [rounds, if_neg counts, if_neg behind]

theorem rounds_empty (counts : ¬ 2 ^ 31 - 1 ≤ dealCount)
    (empty : loop.queue state = []) :
    loop.rounds limit choice dealCount taken state = .ok (taken, state) := by
  rw [rounds, if_neg counts, empty]
  exact ite_self _

/-- A round that takes an item. -/
theorem rounds_take (pops : loop.Pops)
    (counts : ¬ 2 ^ 31 - 1 ≤ dealCount) (within : dealCount ≤ limit)
    {item : Item} {rest : List Item}
    (queueEq : loop.queue state = item :: rest)
    (returns : ∀ fault, loop.rounds limit choice dealCount taken state ≠
      .error (.branch fault)) :
    ∃ next, loop.queue next = rest ∧
      loop.rounds limit choice dealCount taken state =
        loop.rounds limit choice (dealCount + 1) (taken ++ [item]) next := by
  cases took : loop.takeOne (choice taken.length) state with
  | error fault =>
      have fails : loop.rounds limit choice dealCount taken state =
          .error (.branch fault) := by
        rw [rounds, if_neg counts, if_pos within, queueEq]
        dsimp only
        rw [took]
      exact absurd fails (returns fault)
  | ok next =>
      refine ⟨next, pops.takeOne _ _ _ _ _ queueEq took, ?_⟩
      conv_lhs => rw [rounds, if_neg counts, if_pos within, queueEq]
      dsimp only
      rw [took]

end Rounds

/-- Where no branch goes wrong, the loop takes as many items as the counter
allows, unless the counter overflows. -/
theorem rounds_eq (pops : loop.Pops) {dealCount : Int} {taken : List Item}
    {state : State} {queue : List Item} (queueEq : loop.queue state = queue)
    (returns : ∀ fault, loop.rounds limit choice dealCount taken state ≠
      .error (.branch fault)) :
    (dealCount + amount limit dealCount queue < 2 ^ 31 - 1 →
      ∃ after, loop.rounds limit choice dealCount taken state =
          .ok (taken ++ queue.take (amount limit dealCount queue), after) ∧
        loop.queue after = queue.drop (amount limit dealCount queue)) ∧
      (2 ^ 31 - 1 ≤ dealCount + amount limit dealCount queue →
        dealCount ≤ 2 ^ 31 - 1 →
          loop.rounds limit choice dealCount taken state =
            .error .countOverflow) := by
  induction queue generalizing dealCount taken state with
  | nil =>
      rw [amount_nil]
      constructor
      · intro counts
        rw [rounds_empty (by omega) queueEq, List.take_zero, List.append_nil]
        exact ⟨state, rfl, queueEq⟩
      · intro overflows _
        exact rounds_overflow (by omega)
  | cons item rest ih =>
      by_cases overflows : 2 ^ 31 - 1 ≤ dealCount
      · exact ⟨by omega, fun _ _ => rounds_overflow overflows⟩
      by_cases within : dealCount ≤ limit
      · obtain ⟨next, nextQueue, round⟩ :=
          rounds_take pops overflows within queueEq returns
        rw [round] at returns ⊢
        obtain ⟨takes, counts⟩ := ih nextQueue returns
        rw [amount_cons within, List.take_succ_cons, List.drop_succ_cons]
        constructor
        · intro small
          obtain ⟨after, ran, left⟩ := takes (by omega)
          refine ⟨after, ?_, left⟩
          rw [ran, List.append_assoc, List.singleton_append]
        · intro large _
          exact counts (by omega) (by omega)
      · rw [amount_behind within]
        constructor
        · intro _
          rw [rounds_behind overflows within, List.take_zero, List.append_nil]
          exact ⟨state, rfl, queueEq⟩
        · intro large _
          omega

/-- Where every take returns and preserves an invariant, so does the loop,
unless the counter overflows. -/
theorem rounds_preserved {Invariant : State → Prop}
    (takes : ∀ round state item rest, Invariant state →
      loop.queue state = item :: rest →
        ∃ next, loop.takeOne (choice round) state = .ok next ∧
          Invariant next)
    {dealCount : Int} {taken : List Item} {state : State}
    (initially : Invariant state) :
    loop.rounds limit choice dealCount taken state = .error .countOverflow ∨
      ∃ all after, loop.rounds limit choice dealCount taken state =
        .ok (all, after) ∧ Invariant after := by
  fun_induction loop.rounds limit choice dealCount taken state with
  | case1 => exact .inl rfl
  | case2 dealCount taken state => exact .inr ⟨taken, state, rfl, initially⟩
  | case3 dealCount taken state counts within item rest head fault fails =>
      obtain ⟨next, took, -⟩ := takes _ _ _ _ initially head
      rw [fails] at took
      cases took
  | case4 dealCount taken state counts within item rest head next took ih =>
      obtain ⟨other, tookOther, holds⟩ := takes _ _ _ _ initially head
      rw [took] at tookOther
      cases tookOther
      exact ih holds
  | case5 dealCount taken state => exact .inr ⟨taken, state, rfl, initially⟩

/-- Then no branch of a call goes wrong, if what stands behind the loop
returns. -/
theorem branchesReturn_of_preserved (Invariant : State → Prop)
    (takes : ∀ round state item rest, Invariant state →
      loop.queue state = item :: rest →
        ∃ next, loop.takeOne (choice round) state = .ok next ∧
          Invariant next)
    (finishes : ∀ state, Invariant state →
      ∃ next, loop.finish state = .ok next)
    {state : State} (initially : Invariant state) :
    loop.BranchesReturn limit choice state := by
  intro fault fails
  rw [call] at fails
  rcases rounds_preserved takes initially with overflows | reaches
  · rw [overflows] at fails
    cases fails
  · obtain ⟨all, after, ran, holds⟩ := reaches
    obtain ⟨next, finished⟩ := finishes after holds
    rw [ran] at fails
    dsimp only at fails
    rw [finished] at fails
    cases fails

/-- Whether so many takes, for which the same is chosen, empty the queue, and
the call can end behind each of them. -/
def drains (loop : QueueLoop Fault Item Choice State) (chosen : Choice) :
    Nat → State → Bool
  | 0, state => (loop.queue state).isEmpty && (loop.finish state).isOk
  | count + 1, state =>
      (loop.finish state).isOk &&
        match loop.takeOne chosen state with
        | .error _ => false
        | .ok next => loop.drains chosen count next

theorem isOk_of_drains {chosen : Choice} {count : Nat} {state : State}
    (drained : loop.drains chosen count state = true) :
    (loop.finish state).isOk = true := by
  cases count with
  | zero => exact (Bool.and_eq_true_iff.mp drained).2
  | succ count => exact (Bool.and_eq_true_iff.mp drained).1

/-- Then no branch of a call goes wrong. -/
theorem branchesReturn_of_drains {chosen : Choice} {count : Nat}
    {state : State} (drained : loop.drains chosen count state = true) :
    loop.BranchesReturn limit (fun _ => chosen) state := by
  apply branchesReturn_of_preserved
    (fun reached => ∃ left, loop.drains chosen left reached = true) ?_ ?_
    ⟨count, drained⟩
  · rintro round reached item rest ⟨left, drained⟩ head
    cases left with
    | zero =>
        have empty := (Bool.and_eq_true_iff.mp drained).1
        rw [head] at empty
        cases empty
    | succ left =>
        have takes := (Bool.and_eq_true_iff.mp drained).2
        split at takes
        · cases takes
        · rename_i next took
          exact ⟨next, took, left, takes⟩
  · rintro reached ⟨left, drained⟩
    have ends := isOk_of_drains drained
    cases finished : loop.finish reached with
    | error fault =>
        rw [finished] at ends
        cases ends
    | ok next => exact ⟨next, rfl⟩

theorem BranchesReturn.rounds {state : State}
    (returns : loop.BranchesReturn limit choice state) (fault : Fault) :
    loop.rounds limit choice 0 [] state ≠ .error (.branch fault) := by
  intro fails
  apply returns fault
  rw [call, fails]

/-- The call takes one item more than the limit, if there are so many. -/
theorem call_eq (pops : loop.Pops) {state : State}
    (returns : loop.BranchesReturn limit choice state)
    (counts : amount limit 0 (loop.queue state) < 2 ^ 31 - 1) :
    ∃ after, loop.call limit choice state =
        .ok ((loop.queue state).take (amount limit 0 (loop.queue state)),
          after) ∧
      loop.queue after =
        (loop.queue state).drop (amount limit 0 (loop.queue state)) := by
  obtain ⟨middle, ran, left⟩ :=
    (rounds_eq pops rfl returns.rounds).1 (by omega)
  rw [List.nil_append] at ran
  cases finished : loop.finish middle with
  | error fault =>
      have fails : loop.call limit choice state = .error (.branch fault) := by
        rw [call, ran]
        dsimp only
        rw [finished]
      exact absurd fails (returns fault)
  | ok after =>
      refine ⟨after, ?_, (pops.finish _ _ finished).trans left⟩
      rw [call, ran]
      dsimp only
      rw [finished]

theorem call_overflow (pops : loop.Pops) {state : State}
    (returns : loop.BranchesReturn limit choice state)
    (overflows : 2 ^ 31 - 1 ≤ amount limit 0 (loop.queue state)) :
    loop.call limit choice state = .error .countOverflow := by
  rw [call, (rounds_eq pops rfl returns.rounds).2 (by omega) (by omega)]

/-- The call keeps to the limit if and only if there are not more items than
that, and not so many that the counter overflows. -/
theorem takesUpTo_iff (pops : loop.Pops) {state : State}
    (nonneg : 0 ≤ limit)
    (returns : loop.BranchesReturn limit choice state) :
    loop.TakesUpTo limit choice state ↔
      (loop.queue state).length ≤ limit ∧
        (loop.queue state).length < 2 ^ 31 - 1 := by
  constructor
  · rintro ⟨taken, after, called, takenEq, left⟩
    by_cases overflows : 2 ^ 31 - 1 ≤ amount limit 0 (loop.queue state)
    · rw [call_overflow pops returns overflows] at called
      cases called
    · obtain ⟨final, calledAgain, -⟩ :=
        call_eq pops returns (Nat.not_le.mp overflows)
      rw [called] at calledAgain
      obtain ⟨sameTaken, -⟩ := Prod.mk.inj (Except.ok.inj calledAgain)
      have lengths := congrArg List.length (takenEq.symm.trans sameTaken)
      simp only [List.length_take, amount] at lengths overflows
      omega
  · rintro ⟨few, counts⟩
    have all : amount limit 0 (loop.queue state) =
        min limit.toNat (loop.queue state).length := by
      rw [amount]
      omega
    obtain ⟨after, called, left⟩ := call_eq pops returns (by omega)
    rw [all] at called left
    exact ⟨_, after, called, rfl, left⟩

end QueueLoop

end EchoServer
