import Mathlib.Data.List.Basic
import Reckoner.Proofs.Lowercase
import Reckoner.Proofs.Running

/-!
# Stores that calls build

A store is both a map from keys to values and a record of the order in which the keys came in :
`names` goes through the entries in order, `get?` looks an entry up by its key.

Whatever a call (`Call`) does, it assigns entries one after another, so what every assignment
keeps is kept by all calls, also when some of them failed (`Store.perform_induction`).
Assignments keep the names distinct and equal to their keys (`Store.Consistent`), and leave the
names that are there in front. In a consistent store an entry is found by its name, because the
name is its own key and no entry before it has it.
-/

namespace Reckoner

/-- A call that may change a store. -/
inductive Call where
  /-- Assign a value to a variable. -/
  | bind (name : String) (v : Int)
  /-- Carry out one statement. -/
  | statement (st : Statement)
  /-- Run a program. -/
  | run (p : List Statement)

namespace Store

/-- The store after a call. A call that fails leaves what was assigned before it failed. -/
def perform (s : Store) : Call → Store
  | .bind name v => s.bind name v
  | .statement st =>
    match s.assigns st with
    | .ok a => s.carryOut a
    | .error _ => s
  | .run p => (s.run p).store

/-- The store after calls, one after the other. -/
def performAll (s : Store) (calls : List Call) : Store :=
  calls.foldl perform s

variable {s : Store}

/-! ## What assignments keep -/

theorem bindAll_induction {P : Store → Prop} (bind : ∀ s name v, P s → P (s.bind name v))
    (h : P s) (entries : List (String × Int)) : P (s.bindAll entries) := by
  induction entries generalizing s with
  | nil => exact h
  | cons e rest ih => exact ih (bind s e.1 e.2 h)

/-- A call keeps what every assignment keeps. -/
theorem perform_induction {P : Store → Prop} (bind : ∀ s name v, P s → P (s.bind name v))
    (h : P s) (call : Call) : P (s.perform call) := by
  cases call with
  | bind name v => exact bind s name v h
  | statement st =>
    rw [perform]
    cases s.assigns st with
    | ok a => exact bind s a.name a.value h
    | error e => exact h
  | run p =>
    rw [perform, store_run]
    exact bindAll_induction bind h _

theorem performAll_induction {P : Store → Prop} (bind : ∀ s name v, P s → P (s.bind name v))
    (h : P s) (calls : List Call) : P (s.performAll calls) := by
  induction calls generalizing s with
  | nil => exact h
  | cons call calls ih => exact ih (perform_induction bind h call)

/-- No variable is listed twice, and every one is listed under its key. -/
structure Consistent (s : Store) : Prop where
  distinct : s.names.Nodup
  keys : ∀ n ∈ s.names, key n = n

theorem consistent_empty : empty.Consistent :=
  ⟨List.nodup_nil, by simp [names, empty]⟩

theorem Consistent.bind (h : s.Consistent) (name : String) (v : Int) :
    (s.bind name v).Consistent := by
  refine ⟨nodup_names_bind h.distinct name v, fun n hn => ?_⟩
  rcases mem_names_bind.1 hn with hn | rfl
  · exact h.keys n hn
  · exact key_key name

/-- Calls keep a store consistent. -/
theorem consistent_performAll (calls : List Call) : (empty.performAll calls).Consistent :=
  performAll_induction (fun _ name v h => h.bind name v) consistent_empty calls

theorem prefix_names_bind (s : Store) (name : String) (v : Int) :
    s.names <+: (s.bind name v).names := by
  rw [names_bind]
  split
  · exact List.prefix_rfl
  · exact List.prefix_append _ _

/-- A call removes no variable and moves none. -/
theorem prefix_names_perform (s : Store) (call : Call) : s.names <+: (s.perform call).names :=
  perform_induction (P := fun t => s.names <+: t.names)
    (fun t name v h => h.trans (t.prefix_names_bind name v)) List.prefix_rfl call

/-! ## Names and values -/

/-- A key is listed exactly when a value is stored under it. -/
theorem mem_names_iff {k : String} : k ∈ s.names ↔ ∃ v, s.entries.lookup k = some v := by
  rw [← Option.ne_none_iff_exists', ne_eq, lookup_eq_none_iff, not_not]

/-- An entry is found under its name, because no entry before it has that name. -/
theorem Consistent.lookup_of_mem (h : s.Consistent) {e : String × Int} (he : e ∈ s.entries) :
    s.entries.lookup e.1 = some e.2 := by
  obtain ⟨before, after, hsplit⟩ := List.append_of_mem he
  have hnodup := h.distinct
  rw [names, hsplit, List.map_append, List.map_cons] at hnodup
  refine List.lookup_eq_some_iff.2 ⟨before, after, hsplit, fun d hd => ?_⟩
  have hne : e.1 ≠ d.1 := by
    intro heq
    have := List.mem_map_of_mem (f := Prod.fst) hd
    grind
  simpa using hne

theorem Consistent.get?_of_mem (h : s.Consistent) {e : String × Int} (he : e ∈ s.entries) :
    s.get? e.1 = some e.2 := by
  have hkey : key e.1 = e.1 := h.keys e.1 (List.mem_map_of_mem he)
  rw [get?, hkey, h.lookup_of_mem he]

/-- Looking every name up in order gives the entries back. -/
theorem Consistent.filterMap_names (h : s.Consistent) :
    s.names.filterMap (fun n => (s.entries.lookup n).map (n, ·)) = s.entries := by
  have hfound : ∀ e ∈ s.entries, (s.entries.lookup e.1).map (e.1, ·) = some e := by
    intro e he
    rw [h.lookup_of_mem he]
    rfl
  rw [names, List.filterMap_map]
  exact (List.filterMap_congr hfound).trans List.filterMap_some

end Store

end Reckoner
