import Mathlib.Data.List.Induction
import Reckoner.Proofs.Consistency

/-!
# First places and last values

What assignments to the empty store leave can be told without a store. A variable is listed where it
is first assigned (`Store.names_bindAll`), and it has the value that it was last assigned
(`Store.get?_bindAll`). Both are shown by taking the last assignment off the row.

The entries of a store that is built in this way build it again, because they are named by
different keys, and the key of a key is the key (`Store.Consistent.bindAll_entries`).
-/

namespace Reckoner

/-- The value of the last of the assignments to the variable called `name`. -/
def lastValue? (assigned : List (String × Int)) (name : String) : Option Int :=
  (assigned.filter fun e => key e.1 = key name).getLast?.map Prod.snd

theorem lastValue?_concat (assigned : List (String × Int)) (e : String × Int) (name : String) :
    lastValue? (assigned ++ [e]) name =
      if key name = key e.1 then some e.2 else lastValue? assigned name := by
  rw [lastValue?, List.filter_append]
  by_cases h : key name = key e.1
  · simp [h]
  · simp [lastValue?, h, Ne.symm h]

namespace Store

theorem bindAll_concat (s : Store) (assigned : List (String × Int)) (e : String × Int) :
    s.bindAll (assigned ++ [e]) = (s.bindAll assigned).bind e.1 e.2 :=
  List.foldl_append

/-- Variables are listed in the order of their first assignments. -/
theorem names_bindAll (assigned : List (String × Int)) :
    (empty.bindAll assigned).names = (assigned.map fun e => key e.1).eraseDups := by
  induction assigned using List.reverseRecOn with
  | nil => rfl
  | append_singleton assigned e ih =>
    rw [bindAll_concat, names_bind, ih, List.map_append, List.eraseDups_append]
    simp only [List.mem_eraseDups, List.map_cons, List.map_nil, List.removeAll, List.elem_eq_mem]
    by_cases h : key e.1 ∈ assigned.map fun e => key e.1
    · simp [h]
    · simp [h, List.eraseDups_cons]

/-- A variable has the value of its last assignment. -/
theorem get?_bindAll (assigned : List (String × Int)) (name : String) :
    (empty.bindAll assigned).get? name = lastValue? assigned name := by
  induction assigned using List.reverseRecOn with
  | nil => rfl
  | append_singleton assigned e ih => rw [bindAll_concat, get?_bind, lastValue?_concat, ih]

theorem consistent_bindAll (assigned : List (String × Int)) :
    (empty.bindAll assigned).Consistent :=
  bindAll_induction (fun _ name v h => h.bind name v) consistent_empty assigned

/-- The entries of a consistent store, assigned in order, give the store. -/
theorem Consistent.bindAll_entries {s : Store} (h : s.Consistent) :
    empty.bindAll s.entries = s := by
  have hkeys : ∀ e ∈ s.entries, key e.1 = e.1 := fun e he => h.keys e.1 (List.mem_map_of_mem he)
  exact congrArg Store.mk (entries_bindAll (s := empty) hkeys h.distinct)

/-- A report pairs the listed variables with the values of their last assignments. -/
theorem report_bindAll (assigned : List (String × Int)) :
    (empty.bindAll assigned).report.entries.map (fun e => (e.1, some e.2)) =
      (empty.bindAll assigned).names.map fun n => (n, lastValue? assigned n) := by
  rw [names, List.map_map]
  refine List.map_congr_left fun e he => ?_
  rw [← (consistent_bindAll assigned).get?_of_mem he, get?_bindAll]
  rfl

end Store

/-- Assignments to the empty store, in any row and under any names, list every variable once, where
it is first assigned, and give it the value that it is last assigned. The report says the same, and
assigning its entries in order to another empty store gives the same variables in the same order,
the same report and the same values. -/
theorem bindAll_first_places_last_values (assigned : List (String × Int)) :
    (Store.empty.bindAll assigned).names = (assigned.map fun e => key e.1).eraseDups ∧
    (∀ name, (Store.empty.bindAll assigned).get? name = lastValue? assigned name) ∧
    (Store.empty.bindAll assigned).report.entries.map (fun e => (e.1, some e.2)) =
      (Store.empty.bindAll assigned).names.map (fun n => (n, lastValue? assigned n)) ∧
    ∀ again, Store.empty.bindAll (Store.empty.bindAll assigned).report.entries = again →
      again.names = (Store.empty.bindAll assigned).names ∧
      again.report = (Store.empty.bindAll assigned).report ∧
      ∀ name, again.get? name = (Store.empty.bindAll assigned).get? name := by
  refine ⟨Store.names_bindAll assigned, Store.get?_bindAll assigned,
    Store.report_bindAll assigned, ?_⟩
  rintro again rfl
  have hagain : Store.empty.bindAll (Store.empty.bindAll assigned).report.entries =
      Store.empty.bindAll assigned := (Store.consistent_bindAll assigned).bindAll_entries
  rw [hagain]
  exact ⟨rfl, rfl, fun _ => rfl⟩

-- The last letter of the first name is a capital sigma at the end of a word.
example : (Store.empty.bindAll [("ΟΔΟΣ", 1), ("b", 2), ("Οδος", 3)]).entries =
    [("οδος", 3), ("b", 2)] := by
  decide +kernel

end Reckoner
