import EchoServer.FaultingComputation
import Mathlib.Data.List.Basic
import Mathlib.Tactic.SplitIfs

/-!
# Loops that dispatch packages to objects

A loop takes packages, each of which names an object, and deals every package
to its object.  Some objects are put on a list meanwhile; behind the loop the
objects on the list are visited.  The packages and the list name objects by
pointers, so that a package or a visit may use an object that is no longer
usable.  What such a loop does to one object depends on the packages for that
object only.
-/

namespace EchoServer

open FaultingComputation

/-- What a loop does with one object: dealing a package to it tells whether
the object is put on the list. -/
structure DispatchLoop (Fault Package Object : Type) where
  usable : Object → Bool
  dangling : Nat → Fault
  deal : Package → Object → Except Fault (Object × Bool)
  visit : Object → Except Fault Object

/-- The objects, and the list of those to be visited. -/
structure Desk (Object : Type) where
  objects : List Object
  list : List Nat

namespace DispatchLoop

variable {Fault Package Object : Type}
variable (loop : DispatchLoop Fault Package Object)

/-- The object behind a pointer. -/
def access (name : Nat) (objects : List Object) : Except Fault Object :=
  match objects[name]? with
  | some object =>
      if loop.usable object then .ok object else .error (loop.dangling name)
  | none => .error (loop.dangling name)

/-- Deal one package. -/
def dealOne (desk : Desk Object) (package : Nat × Package) :
    Except Fault (Desk Object) := do
  let object ← loop.access package.1 desk.objects
  let (object, listed) ← loop.deal package.2 object
  return { objects := desk.objects.set package.1 object
           list := if listed then desk.list ++ [package.1] else desk.list }

def dealAll (packages : List (Nat × Package)) (desk : Desk Object) :
    Except Fault (Desk Object) :=
  packages.foldlM loop.dealOne desk

/-- Visit one object. -/
def visitOne (objects : List Object) (name : Nat) :
    Except Fault (List Object) := do
  let object ← loop.access name objects
  let object ← loop.visit object
  return objects.set name object

def visitAll (names : List Nat) (objects : List Object) :
    Except Fault (List Object) :=
  names.foldlM loop.visitOne objects

/-- The loop on a batch of packages, and the visits behind it. -/
def run (packages : List (Nat × Package)) (objects : List Object) :
    Except Fault (List Object) := do
  let desk ← loop.dealAll packages { objects, list := [] }
  loop.visitAll desk.list desk.objects

/-- Several batches, one after the other. -/
def runAll (batches : List (List (Nat × Package))) (objects : List Object) :
    Except Fault (List Object) :=
  batches.foldlM (fun objects packages => loop.run packages objects) objects

/-- The objects at some moment of a run: after some of the packages, or after
all of them and some of the visits. -/
def PassesThrough (packages : List (Nat × Package))
    (objects between : List Object) : Prop :=
  ∃ part desk, part <+: packages ∧
    loop.dealAll part { objects, list := [] } = .ok desk ∧
      (between = desk.objects ∨
        part = packages ∧ ∃ names, names <+: desk.list ∧
          loop.visitAll names desk.objects = .ok between)

/-- The packages for one object. -/
def own (name : Nat) (packages : List (Nat × Package)) : List Package :=
  packages.filterMap fun package =>
    if package.1 = name then some package.2 else none

/-- What happens to one object with one of its packages; the object comes with
whether it is on the list. -/
def serveOne (name : Nat) (state : Object × Bool) (package : Package) :
    Except Fault (Object × Bool) :=
  if loop.usable state.1 then
    (loop.deal package state.1).map fun dealt => (dealt.1, state.2 || dealt.2)
  else
    .error (loop.dangling name)

def serveAll (name : Nat) (packages : List Package)
    (state : Object × Bool) : Except Fault (Object × Bool) :=
  packages.foldlM (loop.serveOne name) state

section Own

variable {name other : Nat} {package : Package}
variable {packages before after : List (Nat × Package)}

@[simp]
theorem own_nil : own name ([] : List (Nat × Package)) = [] :=
  rfl

@[simp]
theorem own_cons_self :
    own name ((name, package) :: packages) = package :: own name packages := by
  simp [own]

theorem own_cons_ne (different : other ≠ name) :
    own name ((other, package) :: packages) = own name packages := by
  simp [own, different]

@[simp]
theorem own_append :
    own name (before ++ after) = own name before ++ own name after :=
  List.filterMap_append

theorem own_map {Package' : Type} (wrap : Package → Package') :
    own name (packages.map fun package => (package.1, wrap package.2)) =
      (own name packages).map wrap := by
  induction packages with
  | nil => rfl
  | cons package packages ih =>
      obtain ⟨owner, package⟩ := package
      rw [List.map_cons]
      by_cases same : owner = name
      · subst same
        rw [own_cons_self, own_cons_self, List.map_cons, ih]
      · rw [own_cons_ne same, own_cons_ne same, ih]

/-- The packages for an object that comes alone. -/
theorem own_alone (packages : List Package) :
    own name (packages.map (Prod.mk name)) = packages := by
  induction packages with
  | nil => rfl
  | cons package packages ih => rw [List.map_cons, own_cons_self, ih]

theorem mem_own : package ∈ own name packages ↔ (name, package) ∈ packages := by
  constructor
  · intro isOwn
    obtain ⟨⟨owner, found⟩, isIn, selected⟩ := List.mem_filterMap.mp isOwn
    simp only [Option.ite_none_right_eq_some, Option.some.injEq] at selected
    obtain ⟨rfl, rfl⟩ := selected
    exact isIn
  · intro isIn
    exact List.mem_filterMap.mpr ⟨(name, package), isIn, if_pos rfl⟩

end Own

section Steps

variable {loop} {name : Nat} {objects : List Object} {object : Object}

theorem access_ok :
    loop.access name objects = .ok object ↔
      objects[name]? = some object ∧ loop.usable object = true := by
  rw [access]
  split
  · next other found =>
      rw [found, Option.some.injEq]
      split_ifs with usable
      · constructor
        · rintro ⟨⟩
          exact ⟨rfl, usable⟩
        · rintro ⟨rfl, -⟩
          rfl
      · constructor
        · rintro ⟨⟩
        · rintro ⟨rfl, isUsable⟩
          exact absurd isUsable usable
  · next missing =>
      rw [missing]
      constructor
      · rintro ⟨⟩
      · rintro ⟨⟨⟩, -⟩

/-- What has happened if a package was dealt. -/
theorem dealOne_ok {desk after : Desk Object} {package : Package}
    (dealt : loop.dealOne desk (name, package) = .ok after) :
    ∃ object object' listed, desk.objects[name]? = some object ∧
      loop.usable object = true ∧
      loop.deal package object = .ok (object', listed) ∧
      after.objects = desk.objects.set name object' ∧
      after.list = if listed then desk.list ++ [name] else desk.list := by
  obtain ⟨object, accessed, dealt⟩ := bind_ok dealt
  obtain ⟨⟨object', listed⟩, served, dealt⟩ := bind_ok dealt
  obtain ⟨found, usable⟩ := access_ok.mp accessed
  cases dealt
  exact ⟨object, object', listed, found, usable, served, rfl, rfl⟩

/-- A package can be dealt where its object can be served. -/
theorem dealOne_of_serveOne {desk : Desk Object} {package : Package}
    {state : Object × Bool} {listed : Bool}
    (found : desk.objects[name]? = some object)
    (served : loop.serveOne name (object, listed) package = .ok state) :
    ∃ after, loop.dealOne desk (name, package) = .ok after := by
  rw [serveOne] at served
  split_ifs at served with usable
  have accessed := access_ok.mpr ⟨found, usable⟩
  cases dealt : loop.deal package object with
  | error fault =>
      rw [dealt] at served
      cases served
  | ok result =>
      rw [dealOne, accessed]
      dsimp only [bind, Except.bind]
      rw [dealt]
      exact ⟨_, rfl⟩

theorem visitOne_ok {after : List Object}
    (visited : loop.visitOne objects name = .ok after) :
    ∃ object object', objects[name]? = some object ∧
      loop.usable object = true ∧ loop.visit object = .ok object' ∧
      after = objects.set name object' := by
  obtain ⟨object, accessed, visited⟩ := bind_ok visited
  obtain ⟨object', visit, visited⟩ := bind_ok visited
  obtain ⟨found, usable⟩ := access_ok.mp accessed
  cases visited
  exact ⟨object, object', found, usable, visit, rfl⟩

/-- Whether an object can be served does not depend on the list. -/
theorem serveOne_listed {package : Package} {object' : Object}
    {listed listed' : Bool} (now : Bool)
    (served : loop.serveOne name (object, listed) package =
      .ok (object', listed')) :
    ∃ listed', loop.serveOne name (object, now) package =
      .ok (object', listed') := by
  rw [serveOne] at served ⊢
  split_ifs at served ⊢ with usable
  cases dealt : loop.deal package object with
  | error fault =>
      rw [dealt] at served
      cases served
  | ok result =>
      rw [dealt] at served
      cases served
      exact ⟨_, rfl⟩

end Steps

theorem serveAll_append (name : Nat) (first second : List Package)
    (state : Object × Bool) :
    loop.serveAll name (first ++ second) state =
      loop.serveAll name first state >>= loop.serveAll name second :=
  List.foldlM_append

theorem dealAll_append (first second : List (Nat × Package))
    (desk : Desk Object) :
    loop.dealAll (first ++ second) desk =
      loop.dealAll first desk >>= loop.dealAll second :=
  List.foldlM_append

section Projection

variable {loop} {name : Nat}

/-- One package, as the object with the given name sees it. -/
theorem dealOne_project {desk after : Desk Object} {object : Object}
    {package : Nat × Package} (dealt : loop.dealOne desk package = .ok after)
    (found : desk.objects[name]? = some object) :
    ∃ object', after.objects[name]? = some object' ∧
      loop.serveAll name (own name [package])
          (object, decide (name ∈ desk.list)) =
        .ok (object', decide (name ∈ after.list)) := by
  obtain ⟨owner, package⟩ := package
  obtain ⟨dealtTo, object', listed, dealtFound, usable, served, objects,
    list⟩ := dealOne_ok dealt
  have within : name < desk.objects.length :=
    (List.getElem?_eq_some_iff.mp found).1
  by_cases same : owner = name
  · subst same
    obtain rfl : dealtTo = object := by
      rw [dealtFound] at found
      exact Option.some.inj found
    refine ⟨object', ?_, ?_⟩
    · rw [objects, List.getElem?_set_self within]
    · have registered : decide (owner ∈ after.list) =
          (decide (owner ∈ desk.list) || listed) := by
        rw [list]
        cases listed <;> simp
      rw [own_cons_self, own_nil, registered]
      simp only [serveAll, serveOne, List.foldlM_cons, List.foldlM_nil, usable,
        if_true, served]
      rfl
  · refine ⟨object, ?_, ?_⟩
    · rw [objects, List.getElem?_set_ne same, found]
    · have registered : decide (name ∈ after.list) =
          decide (name ∈ desk.list) := by
        rw [list]
        cases listed <;> simp [Ne.symm same]
      rw [own_cons_ne same, own_nil, registered]
      rfl

/-- Dealing a batch, as one object sees it: its own packages, one after the
other. -/
theorem dealAll_project {packages : List (Nat × Package)}
    {desk after : Desk Object} {object : Object}
    (dealt : loop.dealAll packages desk = .ok after)
    (found : desk.objects[name]? = some object) :
    ∃ object', after.objects[name]? = some object' ∧
      loop.serveAll name (own name packages)
          (object, decide (name ∈ desk.list)) =
        .ok (object', decide (name ∈ after.list)) := by
  induction packages generalizing desk object with
  | nil =>
      cases dealt
      exact ⟨object, found, rfl⟩
  | cons package packages ih =>
      obtain ⟨middle, first, rest⟩ := bind_ok dealt
      obtain ⟨object₁, found₁, served₁⟩ := dealOne_project first found
      obtain ⟨object₂, found₂, served₂⟩ := ih rest found₁
      refine ⟨object₂, found₂, ?_⟩
      have split : package :: packages = [package] ++ packages := rfl
      rw [split, own_append, serveAll_append, served₁]
      exact served₂

/-- Only objects that packages name come on the list. -/
theorem dealAll_list {packages : List (Nat × Package)}
    {desk after : Desk Object}
    (dealt : loop.dealAll packages desk = .ok after)
    (onList : name ∈ after.list) :
    name ∈ desk.list ∨ ∃ package ∈ packages, package.1 = name := by
  induction packages generalizing desk with
  | nil =>
      cases dealt
      exact .inl onList
  | cons package packages ih =>
      obtain ⟨middle, first, rest⟩ := bind_ok dealt
      obtain before | ⟨other, isIn, named⟩ := ih rest
      · obtain ⟨-, -, listed, -, -, -, -, list⟩ := dealOne_ok first
        rw [list] at before
        split_ifs at before with isListed
        · obtain before | new := List.mem_append.mp before
          · exact .inl before
          · exact .inr ⟨package, List.mem_cons_self,
              (List.mem_singleton.mp new).symm⟩
        · exact .inl before
      · exact .inr ⟨other, List.mem_cons_of_mem _ isIn, named⟩

/-- Whether the packages for an object can be served does not depend on the
list. -/
theorem serveAll_listed {packages : List Package} {state : Object × Bool}
    (now : Bool) {result : Object × Bool}
    (served : loop.serveAll name packages state = .ok result) :
    ∃ listed, loop.serveAll name packages (state.1, now) =
      .ok (result.1, listed) := by
  induction packages generalizing state now with
  | nil =>
      cases served
      exact ⟨now, rfl⟩
  | cons package packages ih =>
      obtain ⟨middle, first, rest⟩ := bind_ok served
      obtain ⟨listed, firstNow⟩ := serveOne_listed now first
      obtain ⟨final, restNow⟩ := ih listed rest
      refine ⟨final, ?_⟩
      rw [serveAll, List.foldlM_cons, firstNow]
      exact restNow

/-- A batch can be dealt if each object can be served with its own
packages. -/
theorem dealAll_of_serveAll {packages : List (Nat × Package)}
    {desk : Desk Object}
    (served : ∀ package ∈ packages, ∃ object result,
      desk.objects[package.1]? = some object ∧
        loop.serveAll package.1 (own package.1 packages) (object, false) =
          .ok result) :
    ∃ after, loop.dealAll packages desk = .ok after := by
  induction packages generalizing desk with
  | nil => exact ⟨desk, rfl⟩
  | cons package packages ih =>
      obtain ⟨owner, package⟩ := package
      obtain ⟨object, result, found, first⟩ :=
        served (owner, package) List.mem_cons_self
      rw [own_cons_self] at first
      obtain ⟨state, headServed, tailServed⟩ := bind_ok first
      obtain ⟨middle, dealt⟩ := dealOne_of_serveOne found headServed
      have rest : ∃ after, loop.dealAll packages middle = .ok after := by
        apply ih
        intro other isIn
        obtain ⟨otherObject, otherResult, otherFound, otherServed⟩ :=
          served other (List.mem_cons_of_mem _ isIn)
        obtain ⟨object', found', projected⟩ :=
          dealOne_project dealt otherFound
        obtain ⟨listed, headNow⟩ := serveAll_listed false projected
        have split : (owner, package) :: packages =
            [(owner, package)] ++ packages := rfl
        rw [split, own_append, serveAll_append, headNow] at otherServed
        obtain ⟨final, restNow⟩ := serveAll_listed false otherServed
        exact ⟨object', _, found', restNow⟩
      obtain ⟨after, restDealt⟩ := rest
      refine ⟨after, ?_⟩
      rw [dealAll, List.foldlM_cons, dealt]
      exact restDealt

end Projection

/-- A visit succeeds, and a second one changes nothing. -/
structure Settles (object object' : Object) : Prop where
  usable : loop.usable object = true
  visit : loop.visit object = .ok object'
  usable_after : loop.usable object' = true
  visit_after : loop.visit object' = .ok object'

section Visits

variable {loop} {name : Nat} {names : List Nat} {objects : List Object}

theorem visitOne_of_settles {object object' : Object}
    (found : objects[name]? = some object)
    (settles : loop.Settles object object') :
    loop.visitOne objects name = .ok (objects.set name object') := by
  rw [visitOne, access_ok.mpr ⟨found, settles.usable⟩]
  dsimp only [bind, Except.bind]
  rw [settles.visit]
  rfl

/-- After a visit the objects still on the list can be visited. -/
theorem settles_set {first : Nat} {visited : Object}
    (within : first < objects.length)
    (settled : loop.Settles visited visited)
    (settles : ∀ name ∈ names, ∃ object object',
      objects[name]? = some object ∧ loop.Settles object object') :
    ∀ name ∈ names, ∃ object object',
      (objects.set first visited)[name]? = some object ∧
        loop.Settles object object' := by
  intro name isIn
  by_cases same : first = name
  · subst same
    exact ⟨visited, visited, List.getElem?_set_self within, settled⟩
  · rw [List.getElem?_set_ne same]
    exact settles name isIn

/-- The visits reach the objects on the list, each of them as often as it is
there, and no other object. -/
theorem visitAll_settles
    (settles : ∀ name ∈ names, ∃ object object',
      objects[name]? = some object ∧ loop.Settles object object') :
    ∃ after, loop.visitAll names objects = .ok after ∧
      ∀ name object, objects[name]? = some object →
        ∃ object', after[name]? = some object' ∧
          (name ∈ names → loop.visit object = .ok object') ∧
          (name ∉ names → object' = object) := by
  induction names generalizing objects with
  | nil =>
      refine ⟨objects, rfl, ?_⟩
      intro name object found
      exact ⟨object, found, (fun isIn => nomatch isIn), fun _ => rfl⟩
  | cons first names ih =>
      obtain ⟨visited, visited', foundFirst, settlesFirst⟩ :=
        settles first List.mem_cons_self
      have within : first < objects.length :=
        (List.getElem?_eq_some_iff.mp foundFirst).1
      have settled : loop.Settles visited' visited' :=
        ⟨settlesFirst.usable_after, settlesFirst.visit_after,
          settlesFirst.usable_after, settlesFirst.visit_after⟩
      obtain ⟨after, rest, outcome⟩ := ih (settles_set within settled
        fun name isIn => settles name (List.mem_cons_of_mem _ isIn))
      refine ⟨after, ?_, ?_⟩
      · rw [visitAll, List.foldlM_cons,
          visitOne_of_settles foundFirst settlesFirst]
        exact rest
      · intro name object found
        by_cases same : first = name
        · subst same
          obtain rfl : visited = object := by
            rw [foundFirst] at found
            exact Option.some.inj found
          obtain ⟨object', found', again, untouched⟩ :=
            outcome first visited' (List.getElem?_set_self within)
          refine ⟨object', found', ?_, ?_⟩
          · intro _
            by_cases isIn : first ∈ names
            · rw [settlesFirst.visit, ← again isIn, settlesFirst.visit_after]
            · rw [untouched isIn, settlesFirst.visit]
          · intro absent
            exact absurd List.mem_cons_self absent
        · obtain ⟨object', found', again, untouched⟩ := outcome name object
            (by rw [List.getElem?_set_ne same, found])
          refine ⟨object', found', ?_, ?_⟩
          · intro isIn
            exact again (List.mem_of_ne_of_mem (Ne.symm same) isIn)
          · intro absent
            exact untouched fun isIn => absent (List.mem_cons_of_mem _ isIn)

/-- Visits that succeed use usable objects only. -/
theorem visitAll_usable {after : List Object}
    (visited : loop.visitAll names objects = .ok after)
    (isIn : name ∈ names) :
    ∃ object, objects[name]? = some object ∧ loop.usable object = true := by
  induction names generalizing objects with
  | nil => cases isIn
  | cons first names ih =>
      obtain ⟨middle, visitedFirst, rest⟩ := bind_ok visited
      obtain ⟨object, object', found, usable, -, rfl⟩ :=
        visitOne_ok visitedFirst
      by_cases same : first = name
      · subst same
        exact ⟨object, found, usable⟩
      · obtain ⟨other, otherFound, otherUsable⟩ :=
          ih rest (List.mem_of_ne_of_mem (Ne.symm same) isIn)
        rw [List.getElem?_set_ne same] at otherFound
        exact ⟨other, otherFound, otherUsable⟩

end Visits

section Run

variable {loop} {packages : List (Nat × Package)} {objects : List Object}

/-- A run that succeeds serves each object with its own packages, and an
object that comes on the list is usable at the end. -/
theorem run_ok {after : List Object}
    (ran : loop.run packages objects = .ok after) :
    ∃ desk, loop.dealAll packages { objects, list := [] } = .ok desk ∧
      ∀ name object, objects[name]? = some object →
        ∃ object' listed, desk.objects[name]? = some object' ∧
          loop.serveAll name (own name packages) (object, false) =
            .ok (object', listed) ∧
          (listed = true → loop.usable object' = true) := by
  obtain ⟨desk, dealt, visited⟩ := bind_ok ran
  refine ⟨desk, dealt, ?_⟩
  intro name object found
  obtain ⟨object', found', served⟩ := dealAll_project dealt found
  simp only [List.not_mem_nil, decide_false] at served
  refine ⟨object', _, found', served, ?_⟩
  intro listed
  obtain ⟨visitedObject, visitedFound, usable⟩ :=
    visitAll_usable visited (of_decide_eq_true listed)
  rw [found'] at visitedFound
  obtain rfl := Option.some.inj visitedFound
  exact usable

/-- A run succeeds if each object can be served with its own packages and, if
it comes on the list, be visited; this is then what happens to it. -/
theorem run_of_serveAll
    (serves : ∀ package ∈ packages, ∃ object object' listed,
      objects[package.1]? = some object ∧
        loop.serveAll package.1 (own package.1 packages) (object, false) =
          .ok (object', listed) ∧
        (listed = true → ∃ settled, loop.Settles object' settled)) :
    ∃ after, loop.run packages objects = .ok after ∧
      ∀ name object, objects[name]? = some object →
        ∃ object' listed final, after[name]? = some final ∧
          loop.serveAll name (own name packages) (object, false) =
            .ok (object', listed) ∧
          (listed = true → loop.visit object' = .ok final) ∧
          (listed = false → final = object') := by
  obtain ⟨desk, dealt⟩ : ∃ desk,
      loop.dealAll packages { objects, list := [] } = .ok desk := by
    apply dealAll_of_serveAll
    intro package isIn
    obtain ⟨object, object', listed, found, served, -⟩ := serves package isIn
    exact ⟨object, _, found, served⟩
  have project : ∀ name object, objects[name]? = some object →
      ∃ object', desk.objects[name]? = some object' ∧
        loop.serveAll name (own name packages) (object, false) =
          .ok (object', decide (name ∈ desk.list)) := by
    intro name object found
    simpa using dealAll_project dealt found
  obtain ⟨after, visited, outcome⟩ : ∃ after,
      loop.visitAll desk.list desk.objects = .ok after ∧
        ∀ name object, desk.objects[name]? = some object →
          ∃ object', after[name]? = some object' ∧
            (name ∈ desk.list → loop.visit object = .ok object') ∧
            (name ∉ desk.list → object' = object) := by
    apply visitAll_settles
    intro name onList
    obtain new | ⟨package, isIn, rfl⟩ := dealAll_list dealt onList
    · cases new
    · obtain ⟨object, object', listed, found, served, settles⟩ :=
        serves package isIn
      obtain ⟨other, otherFound, otherServed⟩ := project _ object found
      rw [served] at otherServed
      obtain ⟨rfl, rfl⟩ := Prod.mk.inj (Except.ok.inj otherServed)
      obtain ⟨settled, isSettled⟩ := settles (decide_eq_true onList)
      exact ⟨object', settled, otherFound, isSettled⟩
  refine ⟨after, ?_, ?_⟩
  · rw [run, dealt]
    exact visited
  · intro name object found
    obtain ⟨object', found', served⟩ := project name object found
    obtain ⟨final, finalFound, visits, untouched⟩ :=
      outcome name object' found'
    refine ⟨object', _, final, finalFound, served, ?_, ?_⟩
    · exact fun listed => visits (of_decide_eq_true listed)
    · exact fun unlisted => untouched (of_decide_eq_false unlisted)

end Run

section Preserved

variable {loop} {packages : List (Nat × Package)} {objects : List Object}
variable {Property : Object → Prop}

/-- The objects all have a property, and there are so many of them. -/
def AllHave (Property : Object → Prop) (count : Nat) (objects : List Object) :
    Prop :=
  objects.length = count ∧ ∀ object ∈ objects, Property object

theorem AllHave.set {count : Nat} (all : AllHave Property count objects)
    {object : Object} (name : Nat) (has : Property object) :
    AllHave Property count (objects.set name object) := by
  refine ⟨(List.length_set ..).trans all.1, ?_⟩
  intro other isIn
  rcases List.mem_or_eq_of_mem_set isIn with before | rfl
  · exact all.2 other before
  · exact has

theorem dealAll_allHave {count : Nat}
    (deals : ∀ package object object' listed, Property object →
      loop.deal package object = .ok (object', listed) → Property object')
    {desk after : Desk Object}
    (dealt : loop.dealAll packages desk = .ok after)
    (initially : AllHave Property count desk.objects) :
    AllHave Property count after.objects := by
  induction packages generalizing desk with
  | nil =>
      cases dealt
      exact initially
  | cons package packages ih =>
      obtain ⟨middle, first, rest⟩ := bind_ok dealt
      apply ih rest
      obtain ⟨name, package⟩ := package
      obtain ⟨object, object', listed, found, -, served, changed, -⟩ :=
        dealOne_ok first
      have has := initially.2 object (List.mem_of_getElem? found)
      rw [changed]
      exact initially.set name (deals _ _ _ _ has served)

theorem visitAll_allHave {count : Nat}
    (visits : ∀ object object', Property object →
      loop.visit object = .ok object' → Property object')
    {names : List Nat} {after : List Object}
    (visited : loop.visitAll names objects = .ok after)
    (initially : AllHave Property count objects) :
    AllHave Property count after := by
  induction names generalizing objects with
  | nil =>
      cases visited
      exact initially
  | cons name names ih =>
      obtain ⟨middle, first, rest⟩ := bind_ok visited
      apply ih rest
      obtain ⟨object, object', found, -, visit, rfl⟩ := visitOne_ok first
      have has := initially.2 object (List.mem_of_getElem? found)
      exact initially.set name (visits _ _ has visit)

/-- What every package and every visit preserves of an object holds of all
objects after a run. -/
theorem run_allHave
    (deals : ∀ package object object' listed, Property object →
      loop.deal package object = .ok (object', listed) → Property object')
    (visits : ∀ object object', Property object →
      loop.visit object = .ok object' → Property object')
    {after : List Object} (ran : loop.run packages objects = .ok after)
    (initially : ∀ object ∈ objects, Property object) :
    AllHave Property objects.length after := by
  obtain ⟨desk, dealt, visited⟩ := bind_ok ran
  apply visitAll_allHave visits visited
  exact dealAll_allHave deals dealt ⟨rfl, initially⟩

/-- What every visit preserves of the object with a name holds of it behind the
visits. -/
theorem visitAll_keeps (Property : Nat → Object → Prop)
    (visits : ∀ name object object', Property name object →
      loop.visit object = .ok object' → Property name object')
    {names : List Nat} {after : List Object}
    (visited : loop.visitAll names objects = .ok after)
    (initially : ∀ name object, objects[name]? = some object →
      Property name object) {name : Nat} {object : Object}
    (found : after[name]? = some object) : Property name object := by
  induction names generalizing objects with
  | nil =>
      cases visited
      exact initially name object found
  | cons first names ih =>
      obtain ⟨middle, visitedFirst, rest⟩ := bind_ok visited
      apply ih rest
      obtain ⟨before, after', foundFirst, -, visit, rfl⟩ :=
        visitOne_ok visitedFirst
      intro other otherObject otherFound
      by_cases same : first = other
      · subst same
        have within := (List.getElem?_eq_some_iff.mp foundFirst).1
        rw [List.getElem?_set_self within] at otherFound
        obtain rfl := Option.some.inj otherFound
        exact visits first before _ (initially first before foundFirst) visit
      · rw [List.getElem?_set_ne same] at otherFound
        exact initially other otherObject otherFound

end Preserved
end DispatchLoop

end EchoServer
