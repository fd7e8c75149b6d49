import Mathlib.Data.List.Basic
import Mathlib.Logic.Function.Basic

/-!
# Looking up keys in maps

What a map knows after an entry is inserted or erased: at one key, and as a
function of the key.
-/

namespace EchoServer

namespace MapLookup

variable {Key Value : Type} [DecidableEq Key] {cmp : Key → Key → Ordering}
variable [Std.TransCmp cmp] [Std.LawfulEqCmp cmp]
variable (map : Std.TreeMap Key Value cmp) (key : Key)

theorem insert_getElem? (other : Key) (value : Value) :
    (map.insert key value)[other]? =
      if other = key then some value else map[other]? := by
  simp only [Std.TreeMap.getElem?_insert, Std.LawfulEqCmp.compare_eq_iff_eq]
  simp only [eq_comm]

theorem erase_getElem? (other : Key) :
    (map.erase key)[other]? = if other = key then none else map[other]? := by
  simp only [Std.TreeMap.getElem?_erase, Std.LawfulEqCmp.compare_eq_iff_eq]
  simp only [eq_comm]

theorem lookup_insert (value : Value) :
    (fun other => (map.insert key value)[other]?) =
      Function.update (fun other => map[other]?) key (some value) := by
  funext other
  rw [insert_getElem?, Function.update_apply]

/-- A value that is there stays. -/
theorem insertIfNew_getElem? (other : Key) (value : Value) :
    (map.insertIfNew key value)[other]? =
      map[other]?.or (if other = key then some value else none) := by
  simp only [Std.TreeMap.getElem?_insertIfNew,
    Std.LawfulEqCmp.compare_eq_iff_eq, eq_comm (a := key)]
  by_cases same : other = key
  · subst same
    cases there : map[other]? with
    | none =>
        have notThere : other ∉ map := by
          rw [Std.TreeMap.mem_iff_isSome_getElem?, there]
          simp
        simp [notThere]
    | some before =>
        have isThere : other ∈ map := by
          rw [Std.TreeMap.mem_iff_isSome_getElem?, there]
          rfl
        simp [isThere]
  · simp [same]

variable {map key} in
theorem lookup_insertIfNew (absent : map[key]? = none) (value : Value) :
    (fun other => (map.insertIfNew key value)[other]?) =
      Function.update (fun other => map[other]?) key (some value) := by
  have notThere : key ∉ map := by
    rw [Std.TreeMap.mem_iff_isSome_getElem?, absent]
    simp
  funext other
  simp only [Std.TreeMap.getElem?_insertIfNew,
    Std.LawfulEqCmp.compare_eq_iff_eq, Function.update_apply, notThere,
    not_false_eq_true, and_true]
  simp only [eq_comm]

theorem lookup_erase :
    (fun other => (map.erase key)[other]?) =
      Function.update (fun other => map[other]?) key none := by
  funext other
  rw [erase_getElem?, Function.update_apply]

end MapLookup

end EchoServer
