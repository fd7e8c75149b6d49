import Mathlib.Data.List.Basic
import Mathlib.Tactic.SplitIfs

/-!
# A registry that is told by messages

Messages about keys wait in a queue, and some of them bring the news that what
a key stands for has come up or gone down.  A registry that follows the news
agrees with the facts once the queue is empty, if for each key the latest news
in the queue is true, or the registry agrees already where there is none.
-/

namespace EchoServer

namespace LatestNews

variable {Key Message News : Type} [DecidableEq Key]
variable (news : Message → Option News)

/-- The latest news about a key in a queue. -/
def latest (key : Key) (queue : List (Key × Message)) : Option News :=
  (queue.filterMap fun (other, message) =>
    if other = key then news message else none).getLast?

@[simp]
theorem latest_nil (key : Key) : latest news key [] = none :=
  rfl

variable {news}

theorem latest_of_unnamed {key : Key} {queue : List (Key × Message)}
    (unnamed : ∀ entry ∈ queue, entry.1 ≠ key) :
    latest news key queue = none := by
  rw [latest, List.getLast?_eq_none_iff, List.filterMap_eq_nil_iff]
  intro entry member
  exact if_neg (unnamed entry member)

theorem filterMap_own (key : Key) (messages : List Message) :
    ((messages.map (key, ·)).filterMap fun (other, message) =>
      if other = key then news message else none) =
        messages.filterMap news := by
  induction messages with
  | nil => rfl
  | cons message messages ih =>
      simp only [List.map_cons, List.filterMap_cons, if_true, ih]

/-- Messages about a key come behind all others about it. -/
theorem latest_append_own (key : Key) (queue : List (Key × Message))
    (messages : List Message) :
    latest news key (queue ++ messages.map (key, ·)) =
      (messages.filterMap news).getLast?.or (latest news key queue) := by
  rw [latest, List.filterMap_append, filterMap_own, List.getLast?_append]
  rfl

theorem latest_append_other {key other : Key} (different : other ≠ key)
    (queue : List (Key × Message)) (messages : List Message) :
    latest news key (queue ++ messages.map (other, ·)) =
      latest news key queue := by
  have nothing : ((messages.map (other, ·)).filterMap
      fun (other, message) => if other = key then news message else none) =
        [] := by
    induction messages with
    | nil => rfl
    | cons message messages ih =>
        simpa only [List.map_cons, List.filterMap_cons, different, if_false]
          using ih
  rw [latest, List.filterMap_append, nothing, List.append_nil]
  rfl

theorem latest_cons_own (key : Key) (message : Message)
    (queue : List (Key × Message)) :
    latest news key ((key, message) :: queue) =
      (latest news key queue).or (news message) := by
  simp only [latest, List.filterMap_cons, if_true]
  cases news message with
  | none => rw [Option.or_none]
  | some item =>
      rw [List.getLast?_cons]
      cases (queue.filterMap fun (other, message) =>
        if other = key then news message else none).getLast? <;> rfl

theorem latest_cons_other {key other : Key} (different : other ≠ key)
    (message : Message) (queue : List (Key × Message)) :
    latest news key ((other, message) :: queue) = latest news key queue := by
  simp only [latest, List.filterMap_cons, different, if_false]

/-- What is registered will agree with the facts when the news is known. -/
def Settles (news : Option Bool) (registered up : Prop) : Prop :=
  match news with
  | some told => told = true ↔ up
  | none => registered ↔ up

variable {told : Option Bool} {registered up : Prop}

theorem Settles.settled (settles : Settles none registered up) :
    registered ↔ up :=
  settles

/-- True news settles whatever is registered. -/
theorem Settles.of_told {latest : Bool} (isTrue : latest = true ↔ up)
    (earlier : Option Bool) (registered : Prop) :
    Settles ((some latest).or earlier) registered up :=
  isTrue

/-- Nothing that is registered, and nothing that is up. -/
theorem Settles.of_down (settles : Settles told registered up) (down : ¬ up)
    {registered' up' : Prop} (notRegistered : ¬ registered') (down' : ¬ up') :
    Settles told registered' up' := by
  cases told with
  | none => exact iff_of_false notRegistered down'
  | some told =>
      have isFalse : ¬ told = true := fun isTrue =>
        down (Iff.mp settles isTrue)
      exact iff_of_false isFalse down'

/-- What is registered may change as long as it agrees where it has to. -/
theorem Settles.change (settles : Settles told registered up)
    {registered' : Prop}
    (changed : (registered ↔ up) → (registered' ↔ up)) :
    Settles told registered' up := by
  cases told with
  | none => exact changed settles
  | some told => exact settles

/-- The oldest news is handled: it changes what is registered, which matters
only where there is no later news. -/
theorem Settles.handle {later : Option Bool} {first : Option Bool}
    (settles : Settles (later.or first) registered up) {registered' : Prop}
    (handled : later = none → Settles first registered up →
      (registered' ↔ up)) : Settles later registered' up := by
  cases later with
  | none => exact handled rfl settles
  | some told => exact settles

end LatestNews

end EchoServer
