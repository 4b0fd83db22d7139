import Reckoner.Text.Lowercase

/-!
# The store of variables

A store holds the variables and their values in the order of first assignment. Names are
the same variable when their lower-case forms agree, and a store knows a variable by that
form only (`key`). Assigning to a variable that is already there replaces its value and
keeps its place; a new one goes to the end.
-/

namespace Reckoner

/-- The form of a name under which its variable is stored. -/
def key (name : String) : String :=
  Text.lowercase name

/-- Variables with their values, in order of first assignment. -/
structure Store where
  entries : List (String × Int)
  deriving DecidableEq

namespace Store

/-- The store without variables. -/
def empty : Store :=
  ⟨[]⟩

/-- The names of the variables, in order of first assignment. -/
def names (s : Store) : List String :=
  s.entries.map Prod.fst

/-- The value of the variable called `name`. -/
def get? (s : Store) (name : String) : Option Int :=
  s.entries.lookup (key name)

/-- Give the entry `k` the value `v`, adding it at the end if it is missing. -/
def put (k : String) (v : Int) : List (String × Int) → List (String × Int)
  | [] => [(k, v)]
  | e :: rest => if e.1 = k then (k, v) :: rest else e :: put k v rest

/-- Assign `v` to the variable called `name`. -/
def bind (s : Store) (name : String) (v : Int) : Store :=
  ⟨put (key name) v s.entries⟩

/-! ## What an assignment changes -/

theorem lookup_entry (k n : String) (w : Int) (rest : List (String × Int)) :
    ((n, w) :: rest).lookup k = if k = n then some w else rest.lookup k := by
  by_cases h : k = n
  · simp [h]
  · rw [List.lookup_cons, beq_false_of_ne h, if_neg h]

theorem lookup_put (k k' : String) (v : Int) (entries : List (String × Int)) :
    (put k v entries).lookup k' = if k' = k then some v else entries.lookup k' := by
  induction entries with
  | nil => rw [put, lookup_entry]
  | cons e rest ih =>
    obtain ⟨n, w⟩ := e
    by_cases hn : n = k
    · subst hn
      simp only [put, if_true, lookup_entry]
      split <;> rfl
    · simp only [put, if_neg hn, lookup_entry, ih]
      by_cases hk : k' = n
      · rw [if_pos hk, if_pos hk, if_neg (hk ▸ hn)]
      · rw [if_neg hk, if_neg hk]

theorem map_fst_put (k : String) (v : Int) (entries : List (String × Int)) :
    (put k v entries).map Prod.fst =
      if k ∈ entries.map Prod.fst then entries.map Prod.fst
      else entries.map Prod.fst ++ [k] := by
  induction entries with
  | nil => simp [put]
  | cons e rest ih =>
    by_cases h : e.1 = k
    · simp [put, h]
    · have hk : k ≠ e.1 := fun he => h he.symm
      simp only [put, h, if_false, List.map_cons, ih, List.mem_cons, hk, false_or]
      split <;> simp

/-- The assigned variable has the new value, and the others keep theirs. -/
theorem get?_bind (s : Store) (name name' : String) (v : Int) :
    (s.bind name v).get? name' = if key name' = key name then some v else s.get? name' :=
  lookup_put _ _ _ _

/-- A variable keeps its place, and a new one goes to the end. -/
theorem names_bind (s : Store) (name : String) (v : Int) :
    (s.bind name v).names =
      if key name ∈ s.names then s.names else s.names ++ [key name] :=
  map_fst_put _ _ _

end Store

end Reckoner
