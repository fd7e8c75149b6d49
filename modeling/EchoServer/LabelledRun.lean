import EchoServer.FaultingComputation
import Mathlib.Data.List.Basic

/-!
# Runs of a step function that may stop with a fault

A system is given by a step function on states and actions that either yields
the next state or stops with a fault.  This file runs a list of actions,
states that every action of a run meets a condition in the state in which it
is taken, and packages the inductions over runs: an invariant that every step
meeting the condition preserves holds at the end of the run, and a property
of prefixes holds throughout a run exactly when every step meets the condition
that is exact for one step.
-/

namespace EchoServer

namespace LabelledRun

variable {State Action Fault : Type*}
variable (step : State → Action → Except Fault State)

/-- Take the actions one after the other, stopping at the first fault. -/
def runActions : State → List Action → Except Fault State
  | state, [] => .ok state
  | state, action :: actions =>
      match step state action with
      | .ok next => runActions next actions
      | .error fault => .error fault

/-- Every action of the run meets the condition in the state before it. -/
def MeetsAlong (condition : State → Action → Prop) :
    State → List Action → Prop
  | _, [] => True
  | state, action :: actions =>
      condition state action ∧
        ∀ next, step state action = .ok next →
          MeetsAlong condition next actions

/-- A condition along a run can be evaluated if it can be at one step. -/
instance decidableMeetsAlong (condition : State → Action → Prop)
    [∀ state action, Decidable (condition state action)] :
    ∀ state actions, Decidable (MeetsAlong step condition state actions)
  | _, [] => isTrue trivial
  | state, action :: actions =>
      match stepped : step state action with
      | .ok next =>
          let _ := decidableMeetsAlong condition next actions
          decidable_of_iff
            (condition state action ∧
              MeetsAlong step condition next actions)
            (by simp [MeetsAlong, stepped])
      | .error _ =>
          decidable_of_iff (condition state action)
            (by simp [MeetsAlong, stepped])

variable {step}

@[simp]
theorem runActions_nil (state : State) :
    runActions step state [] = .ok state :=
  rfl

@[simp]
theorem runActions_singleton (state : State) (action : Action) :
    runActions step state [action] = step state action := by
  cases stepped : step state action <;> simp [runActions, stepped]

theorem runActions_cons_ok {state next : State} {action : Action}
    (actions : List Action) (stepped : step state action = .ok next) :
    runActions step state (action :: actions) =
      runActions step next actions := by
  simp [runActions, stepped]

/-- A run that ends in a state splits at its first action. -/
theorem runActions_cons_eq_ok {state final : State} {action : Action}
    {actions : List Action}
    (ran : runActions step state (action :: actions) = .ok final) :
    ∃ next, step state action = .ok next ∧
      runActions step next actions = .ok final := by
  cases stepped : step state action with
  | ok next => exact ⟨next, rfl, by simpa [runActions, stepped] using ran⟩
  | error fault => simp [runActions, stepped] at ran

/-- The condition along a run, read off at each of its steps. -/
theorem meetsAlong_iff {condition : State → Action → Prop} {state : State}
    {actions : List Action} :
    MeetsAlong step condition state actions ↔
      ∀ first action second middle,
        actions = first ++ action :: second →
          runActions step state first = .ok middle →
            condition middle action := by
  induction actions generalizing state with
  | nil => simp [MeetsAlong]
  | cons head actions ih =>
      constructor
      · rintro ⟨headMeets, restMeets⟩ first action second middle split reached
        cases first with
        | nil =>
            simp only [List.nil_append, List.cons.injEq] at split
            simp only [runActions_nil, Except.ok.injEq] at reached
            rw [← split.1, ← reached]
            exact headMeets
        | cons other first =>
            simp only [List.cons_append, List.cons.injEq] at split
            obtain ⟨rfl, split⟩ := split
            obtain ⟨next, stepped, reached⟩ := runActions_cons_eq_ok reached
            exact ih.mp (restMeets next stepped) first action second middle
              split reached
      · intro meets
        refine ⟨meets [] head actions state rfl rfl, ?_⟩
        intro next stepped
        apply ih.mpr
        intro first action second middle split reached
        apply meets (head :: first) action second middle
        · simp [split]
        · rw [runActions_cons_ok first stepped]
          exact reached

theorem meetsAlong_append {condition : State → Action → Prop}
    {state middle : State} {first second : List Action}
    (meets : MeetsAlong step condition state (first ++ second))
    (reached : runActions step state first = .ok middle) :
    MeetsAlong step condition state first ∧
      MeetsAlong step condition middle second := by
  induction first generalizing state with
  | nil =>
      simp only [runActions_nil, Except.ok.injEq] at reached
      exact ⟨trivial, reached ▸ meets⟩
  | cons action actions ih =>
      obtain ⟨next, stepped, reached⟩ := runActions_cons_eq_ok reached
      obtain ⟨restFirst, restSecond⟩ := ih (meets.2 next stepped) reached
      refine ⟨⟨meets.1, ?_⟩, restSecond⟩
      intro other otherStepped
      obtain rfl : next = other := by
        rw [stepped] at otherStepped
        exact Except.ok.inj otherStepped
      exact restFirst

/-- A condition that the actions meet in any state. -/
theorem meetsAlong_of_forall {condition : State → Action → Prop}
    {state : State} {actions : List Action}
    (meets : ∀ action ∈ actions, ∀ state, condition state action) :
    MeetsAlong step condition state actions := by
  induction actions generalizing state with
  | nil => trivial
  | cons action actions ih =>
      obtain ⟨first, rest⟩ := List.forall_mem_cons.mp meets
      exact ⟨first state, fun _ _ => ih rest⟩

theorem MeetsAlong.imp {condition weaker : State → Action → Prop}
    (implies : ∀ state action, condition state action → weaker state action)
    {state : State} {actions : List Action}
    (meets : MeetsAlong step condition state actions) :
    MeetsAlong step weaker state actions := by
  induction actions generalizing state with
  | nil => trivial
  | cons action actions ih =>
      exact ⟨implies _ _ meets.1,
        fun next stepped => ih (meets.2 next stepped)⟩

theorem MeetsAlong.and {condition other : State → Action → Prop}
    {state : State} {actions : List Action}
    (meets : MeetsAlong step condition state actions)
    (meetsOther : MeetsAlong step other state actions) :
    MeetsAlong step
      (fun state action => condition state action ∧ other state action)
      state actions := by
  induction actions generalizing state with
  | nil => trivial
  | cons action actions ih =>
      refine ⟨⟨meets.1, meetsOther.1⟩, ?_⟩
      intro next stepped
      exact ih (meets.2 next stepped) (meetsOther.2 next stepped)

/-- Where an invariant of all steps makes two conditions the same, they are
the same along every run. -/
theorem meetsAlong_congr {condition other : State → Action → Prop}
    {Invariant : State → Prop}
    (preserved : ∀ state action next, Invariant state →
      step state action = .ok next → Invariant next)
    (same : ∀ state action, Invariant state →
      (condition state action ↔ other state action))
    {state : State} {actions : List Action} (initially : Invariant state) :
    MeetsAlong step condition state actions ↔
      MeetsAlong step other state actions := by
  induction actions generalizing state with
  | nil => rfl
  | cons action actions ih =>
      refine and_congr (same state action initially) ?_
      refine forall_congr' fun next => forall_congr' fun stepped => ?_
      exact ih (preserved _ _ _ initially stepped)

/-- Invariant rule: what every step meeting the condition preserves holds at
the end of a run whose steps all meet it. -/
theorem invariant_of_meetsAlong {condition : State → Action → Prop}
    {Invariant : State → Prop}
    (preserved : ∀ state action next, Invariant state →
      condition state action → step state action = .ok next →
        Invariant next)
    {state final : State} {actions : List Action}
    (initially : Invariant state)
    (meets : MeetsAlong step condition state actions)
    (ran : runActions step state actions = .ok final) :
    Invariant final := by
  induction actions generalizing state with
  | nil =>
      simp only [runActions_nil, Except.ok.injEq] at ran
      exact ran ▸ initially
  | cons action actions ih =>
      obtain ⟨next, stepped, ran⟩ := runActions_cons_eq_ok ran
      exact ih (preserved _ _ _ initially meets.1 stepped)
        (meets.2 next stepped) ran

/-- Invariant rule for steps that all preserve the invariant. -/
theorem invariant_of_run {Invariant : State → Prop}
    (preserved : ∀ state action next, Invariant state →
      step state action = .ok next → Invariant next)
    {state final : State} {actions : List Action}
    (initially : Invariant state)
    (ran : runActions step state actions = .ok final) :
    Invariant final := by
  induction actions generalizing state with
  | nil =>
      simp only [runActions_nil, Except.ok.injEq] at ran
      exact ran ▸ initially
  | cons action actions ih =>
      obtain ⟨next, stepped, ran⟩ := runActions_cons_eq_ok ran
      exact ih (preserved _ _ _ initially stepped) ran

/-- A step that is known to lead to the invariant preserves it. -/
theorem preserved_of_steps {condition : State → Action → Prop}
    {Invariant : State → Prop}
    (steps : ∀ state action, Invariant state → condition state action →
      ∃ next, step state action = .ok next ∧ Invariant next) :
    ∀ state action next, Invariant state → condition state action →
      step state action = .ok next → Invariant next := by
  intro state action next holds met stepped
  obtain ⟨reached, reachedStep, reachedHolds⟩ := steps state action holds met
  obtain rfl := Except.ok.inj (reachedStep.symm.trans stepped)
  exact reachedHolds

/-- What an invariant and the condition imply is met along the run too. -/
theorem MeetsAlong.of_invariant {condition other : State → Action → Prop}
    {Invariant : State → Prop}
    (preserved : ∀ state action next, Invariant state →
      condition state action → step state action = .ok next →
        Invariant next)
    (implies : ∀ state action, Invariant state → condition state action →
      other state action)
    {state : State} {actions : List Action} (initially : Invariant state)
    (meets : MeetsAlong step condition state actions) :
    MeetsAlong step other state actions := by
  induction actions generalizing state with
  | nil => trivial
  | cons action actions ih =>
      refine ⟨implies state action initially meets.1, ?_⟩
      intro next stepped
      exact ih (preserved _ _ _ initially meets.1 stepped)
        (meets.2 next stepped)

/-- Where no step from the invariant that meets the condition stops with a
fault of some kind, no run whose steps all meet it does. -/
theorem avoids_of_meetsAlong {condition : State → Action → Prop}
    {Invariant : State → Prop} {bad : Fault → Prop}
    (preserved : ∀ state action next, Invariant state →
      condition state action → step state action = .ok next →
        Invariant next)
    (avoids : ∀ state action, Invariant state → condition state action →
      FaultingComputation.Avoids bad (step state action))
    {state : State} {actions : List Action} (initially : Invariant state)
    (meets : MeetsAlong step condition state actions) :
    FaultingComputation.Avoids bad (runActions step state actions) := by
  induction actions generalizing state with
  | nil => exact FaultingComputation.avoids_ok state
  | cons action actions ih =>
      have first := avoids state action initially meets.1
      cases stepped : step state action with
      | error fault =>
          rw [stepped] at first
          simp only [runActions, stepped]
          exact first
      | ok next =>
          rw [runActions_cons_ok actions stepped]
          exact ih (preserved _ _ _ initially meets.1 stepped)
            (meets.2 next stepped)

/-- A property holds after every prefix of a run. -/
def HoldsThroughout (step : State → Action → Except Fault State)
    (property : State → Prop) (state : State) (actions : List Action) :
    Prop :=
  ∀ first second, actions = first ++ second →
    ∃ reached, runActions step state first = .ok reached ∧ property reached

/-- If every step from a state with the property that meets a condition leads
to a state with the property, the property holds throughout every run whose
steps all meet the condition. -/
theorem holdsThroughout_of_meetsAlong {condition : State → Action → Prop}
    {property : State → Prop}
    (steps : ∀ state action, property state → condition state action →
      ∃ next, step state action = .ok next ∧ property next)
    {state : State} {actions : List Action} (initially : property state)
    (meets : MeetsAlong step condition state actions) :
    HoldsThroughout step property state actions := by
  intro first second split
  induction first generalizing state actions with
  | nil => exact ⟨state, rfl, initially⟩
  | cons action first ih =>
      subst split
      obtain ⟨next, stepped, nextHolds⟩ := steps state action initially meets.1
      rw [runActions_cons_ok first stepped]
      exact ih nextHolds (meets.2 next stepped) rfl

theorem HoldsThroughout.imp {property weaker : State → Prop}
    (implies : ∀ state, property state → weaker state) {state : State}
    {actions : List Action}
    (holds : HoldsThroughout step property state actions) :
    HoldsThroughout step weaker state actions := by
  intro first second split
  obtain ⟨reached, ran, reachedHolds⟩ := holds first second split
  exact ⟨reached, ran, implies reached reachedHolds⟩

/-- If a condition is exact for one step from a state with the property, it
is exact for whole runs: the property holds throughout if and only if every
step meets the condition. -/
theorem holdsThroughout_iff {condition : State → Action → Prop}
    {property : State → Prop}
    (exact_step : ∀ state action, property state →
      ((∃ next, step state action = .ok next ∧ property next) ↔
        condition state action))
    {state : State} {actions : List Action} (initially : property state) :
    HoldsThroughout step property state actions ↔
      MeetsAlong step condition state actions := by
  constructor
  · intro holds
    induction actions generalizing state with
    | nil => trivial
    | cons action actions ih =>
        obtain ⟨next, stepped, nextHolds⟩ := holds [action] actions rfl
        rw [runActions_singleton] at stepped
        refine ⟨(exact_step _ _ initially).mp ⟨next, stepped, nextHolds⟩, ?_⟩
        intro other otherStepped
        obtain rfl : next = other := by
          rw [stepped] at otherStepped
          exact Except.ok.inj otherStepped
        apply ih nextHolds
        intro first second split
        obtain ⟨reached, ran, reachedHolds⟩ :=
          holds (action :: first) second (by simp [split])
        rw [runActions_cons_ok first stepped] at ran
        exact ⟨reached, ran, reachedHolds⟩
  · apply holdsThroughout_of_meetsAlong
    · intro state action holds met
      exact (exact_step state action holds).mpr met
    · exact initially

/-- A property holds in every state that a run comes to before it ends or
stops with a fault. -/
def HoldsWhereReached (step : State → Action → Except Fault State)
    (property : State → Prop) (state : State) (actions : List Action) :
    Prop :=
  ∀ first second reached, actions = first ++ second →
    runActions step state first = .ok reached → property reached

/-- What an invariant implies holds in every state that a run comes to, if
its steps meet the condition under which they preserve the invariant. -/
theorem holdsWhereReached_of_meetsAlong
    {condition : State → Action → Prop} {property Invariant : State → Prop}
    (preserved : ∀ state action next, Invariant state →
      condition state action → step state action = .ok next →
        Invariant next)
    (implies : ∀ state, Invariant state → property state)
    {state : State} {actions : List Action} (initially : Invariant state)
    (meets : MeetsAlong step condition state actions) :
    HoldsWhereReached step property state actions := by
  rintro first second reached rfl ran
  have metFirst := (meetsAlong_append meets ran).1
  exact implies reached
    (invariant_of_meetsAlong preserved initially metFirst ran)

/-- Like `holdsThroughout_iff` for runs that may stop with a fault, and whose
steps all meet a further condition under which they keep an invariant that
helps to tell whether a step keeps the property. -/
theorem holdsWhereReached_iff_of_meetsAlong
    {given condition : State → Action → Prop}
    {property Invariant : State → Prop}
    (preserved : ∀ state action next, Invariant state →
      given state action → step state action = .ok next → Invariant next)
    (exact_step : ∀ state action, Invariant state → given state action →
      property state →
        ((∀ next, step state action = .ok next → property next) ↔
          condition state action))
    {state : State} {actions : List Action} (invariant : Invariant state)
    (initially : property state)
    (meets : MeetsAlong step given state actions) :
    HoldsWhereReached step property state actions ↔
      MeetsAlong step condition state actions := by
  induction actions generalizing state with
  | nil =>
      refine ⟨fun _ => trivial, ?_⟩
      rintro - first second reached split ran
      obtain ⟨rfl, rfl⟩ := List.append_eq_nil_iff.mp split.symm
      exact Except.ok.inj ran ▸ initially
  | cons action actions ih =>
      obtain ⟨given, meets⟩ := meets
      have exactly := exact_step state action invariant given initially
      constructor
      · intro holds
        have kept : ∀ next, step state action = .ok next →
            property next := by
          intro next stepped
          exact holds [action] actions next rfl (by simpa using stepped)
        refine ⟨exactly.mp kept, ?_⟩
        intro next stepped
        apply (ih (preserved _ _ _ invariant given stepped)
          (kept next stepped) (meets next stepped)).mp
        intro first second reached split ran
        apply holds (action :: first) second reached (by simp [split])
        rw [runActions_cons_ok first stepped]
        exact ran
      · rintro ⟨headMeets, restMeets⟩ first second reached split ran
        cases first with
        | nil => exact Except.ok.inj ran ▸ initially
        | cons other first =>
            obtain ⟨rfl, splitRest⟩ := List.cons.inj split
            obtain ⟨next, stepped, ran⟩ := runActions_cons_eq_ok ran
            exact (ih (preserved _ _ _ invariant given stepped)
              (exactly.mpr headMeets next stepped)
              (meets next stepped)).mpr (restMeets next stepped) first second
              reached splitRest ran

/-- The same where every step keeps the invariant. -/
theorem holdsWhereReached_iff {condition : State → Action → Prop}
    {property Invariant : State → Prop}
    (preserved : ∀ state action next, Invariant state →
      step state action = .ok next → Invariant next)
    (exact_step : ∀ state action, Invariant state → property state →
      ((∀ next, step state action = .ok next → property next) ↔
        condition state action))
    {state : State} {actions : List Action} (invariant : Invariant state)
    (initially : property state) :
    HoldsWhereReached step property state actions ↔
      MeetsAlong step condition state actions := by
  have always : MeetsAlong step (fun _ _ => True) state actions :=
    meetsAlong_of_forall fun _ _ _ => trivial
  refine holdsWhereReached_iff_of_meetsAlong ?_ ?_ invariant initially always
  · intro state action next holds _ stepped
    exact preserved state action next holds stepped
  · intro state action holds _ has
    exact exact_step state action holds has

end LabelledRun

end EchoServer
