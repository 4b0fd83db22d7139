import Reckoner.Evaluation

/-!
# The variables that a run leaves

A step of a run assigns one variable or stops, so a run does nothing to a store but assign one
entry after another (`Store.store_run`). The variables after a run are those there before and the
ones that the program assigns (`Store.mem_names_run`), each of them once
(`Store.nodup_names_run`). Assigning entries with new keys puts them behind the variables that
are there (`Store.entries_bindAll`). Two programs one after the other run like the first and
then, on the store it leaves, the second (`Store.run_append`).

What a run does can be told statement by statement (`CarriesOut`). It carries out the whole
program, or what stands before the first statement without a value (`Store.run_cases`).
-/

namespace Reckoner

namespace Store

variable {s : Store} {st : Statement}

/-- A statement without a value stops the run and changes nothing. -/
theorem run_cons_of_error {e : Error} (h : s.eval st.value = .error e) (p : List Statement) :
    s.run (st :: p) = ⟨[], s, some e⟩ := by
  rw [run, assigns, h]
  rfl

/-- After a statement with a value the run goes on with the value assigned. -/
theorem run_cons_of_ok {v : Int} (h : s.eval st.value = .ok v) (p : List Statement) :
    s.run (st :: p) =
      ⟨⟨st.name, v, st.line⟩ :: ((s.bind st.name v).run p).assigned,
        ((s.bind st.name v).run p).store, ((s.bind st.name v).run p).error?⟩ := by
  rw [run, assigns, h]
  rfl

/-- Nothing is stored under a key that is not listed. -/
theorem lookup_eq_none_iff {k : String} : s.entries.lookup k = none ↔ k ∉ s.names := by
  simp only [List.lookup_eq_none_iff, names, List.mem_map]
  grind

theorem nodup_names_bind (h : s.names.Nodup) (name : String) (v : Int) :
    (s.bind name v).names.Nodup := by
  rw [names_bind]
  split
  · exact h
  · next hk => grind

theorem mem_names_bind {name n : String} {v : Int} :
    n ∈ (s.bind name v).names ↔ n ∈ s.names ∨ n = key name := by
  rw [names_bind]
  split
  · next hk =>
    constructor
    · exact .inl
    · rintro (hn | rfl)
      · exact hn
      · exact hk
  · simp

/-! ## Assigning one entry after another -/

/-- Assign the entries in order. -/
def bindAll (s : Store) (entries : List (String × Int)) : Store :=
  entries.foldl (fun s e => s.bind e.1 e.2) s

theorem bindAll_cons (s : Store) (e : String × Int) (rest : List (String × Int)) :
    s.bindAll (e :: rest) = (s.bind e.1 e.2).bindAll rest :=
  rfl

theorem nodup_names_bindAll (h : s.names.Nodup) (entries : List (String × Int)) :
    (s.bindAll entries).names.Nodup := by
  induction entries generalizing s with
  | nil => exact h
  | cons e rest ih => exact ih (nodup_names_bind h e.1 e.2)

/-- A value goes to the first entry of its name, wherever that is. -/
theorem put_append (k : String) (v : Int) (before after : List (String × Int)) :
    put k v (before ++ after) =
      if k ∈ before.map Prod.fst then put k v before ++ after else before ++ put k v after := by
  induction before with
  | nil => simp
  | cons e rest ih =>
    by_cases h : e.1 = k
    · simp [put, h]
    · have hk : k ≠ e.1 := Ne.symm h
      simp only [List.cons_append, put, if_neg h, ih, List.map_cons, List.mem_cons, hk, false_or]
      split <;> rfl

theorem put_of_notMem {k : String} {entries : List (String × Int)}
    (h : k ∉ entries.map Prod.fst) (v : Int) : put k v entries = entries ++ [(k, v)] := by
  have happend := put_append k v entries []
  rwa [List.append_nil, if_neg h] at happend

/-- New entries under their keys go behind the ones that are there. -/
theorem entries_bindAll {entries : List (String × Int)}
    (hkey : ∀ e ∈ entries, key e.1 = e.1)
    (hnodup : (s.names ++ entries.map Prod.fst).Nodup) :
    (s.bindAll entries).entries = s.entries ++ entries := by
  induction entries generalizing s with
  | nil => simp [bindAll]
  | cons e rest ih =>
    rw [List.forall_mem_cons] at hkey
    have hnew : e.1 ∉ s.names := by
      intro hmem
      grind
    have hbind : (s.bind e.1 e.2).entries = s.entries ++ [e] := by
      rw [bind, hkey.1, put_of_notMem hnew]
    have hnames : (s.bind e.1 e.2).names = s.names ++ [e.1] := by
      rw [names, hbind, List.map_append]
      rfl
    have hrest : ((s.bind e.1 e.2).names ++ rest.map Prod.fst).Nodup := by
      rw [hnames]
      simpa using hnodup
    rw [bindAll_cons, ih hkey.2 hrest, hbind]
    simp

/-! ## Runs as assignments -/

/-- A run leaves the store to which its assignments were made in order. -/
theorem store_run (s : Store) (p : List Statement) :
    (s.run p).store = s.bindAll ((s.run p).assigned.map fun a => (a.name, a.value)) := by
  induction p generalizing s with
  | nil => rfl
  | cons st p ih =>
    cases hv : s.eval st.value with
    | error e =>
      rw [run_cons_of_error hv]
      rfl
    | ok v =>
      rw [run_cons_of_ok hv, List.map_cons, bindAll_cons]
      exact ih (s.bind st.name v)

/-- A run lists no variable twice. -/
theorem nodup_names_run (h : s.names.Nodup) (p : List Statement) :
    (s.run p).store.names.Nodup := by
  rw [store_run]
  exact nodup_names_bindAll h _

/-- The variables after a run were there before it or are assigned by the program. -/
theorem mem_names_run {p : List Statement} {n : String}
    (h : n ∈ (s.run p).store.names) : n ∈ s.names ∨ ∃ st ∈ p, n = key st.name := by
  induction p generalizing s with
  | nil => exact .inl h
  | cons st p ih =>
    cases hv : s.eval st.value with
    | error e =>
      rw [run_cons_of_error hv] at h
      exact .inl h
    | ok v =>
      rw [run_cons_of_ok hv] at h
      rcases ih h with hn | ⟨st', hst', rfl⟩
      · rcases mem_names_bind.1 hn with hn | rfl
        · exact .inl hn
        · exact .inr ⟨st, by simp, rfl⟩
      · exact .inr ⟨st', by simp [hst'], rfl⟩

end Store

/-! ## Running one program after another -/

/-- A run and, unless it was stopped, the next one on the store that it left. -/
def Run.andThen (r : Run) (next : Store → Run) : Run :=
  match r.error? with
  | some _ => r
  | none =>
    let later := next r.store
    { later with assigned := r.assigned ++ later.assigned }

theorem Store.run_append (s : Store) (p q : List Statement) :
    s.run (p ++ q) = (s.run p).andThen fun t => t.run q := by
  induction p generalizing s with
  | nil => rfl
  | cons st p ih =>
    rw [List.cons_append]
    cases hv : s.eval st.value with
    | error e =>
      rw [run_cons_of_error hv, run_cons_of_error hv]
      rfl
    | ok v =>
      rw [run_cons_of_ok hv, run_cons_of_ok hv, ih]
      obtain ⟨assigned, store, error?⟩ := (s.bind st.name v).run p
      cases error? <;> rfl

/-- A run that is stopped does not get to what follows. -/
theorem Store.run_append_of_some {s : Store} {p : List Statement} {e : Error}
    (h : (s.run p).error? = some e) (q : List Statement) : s.run (p ++ q) = s.run p := by
  simp only [run_append, Run.andThen, h]

/-- After a run that came to its end, the next program starts on the store that it left. -/
theorem Store.run_append_of_none {s : Store} {p : List Statement}
    (h : (s.run p).error? = none) (q : List Statement) :
    s.run (p ++ q) =
      ⟨(s.run p).assigned ++ ((s.run p).store.run q).assigned,
        ((s.run p).store.run q).store, ((s.run p).store.run q).error?⟩ := by
  simp only [run_append, Run.andThen, h]

/-! ## Carrying out statements -/

/-- Statements are carried out from the store `s`, each with the value that it has in the store
that those before it left. They make the assignments and leave the store `t`. -/
inductive CarriesOut : Store → List Statement → List Assignment → Store → Prop where
  | done {s : Store} : CarriesOut s [] [] s
  | step {s t : Store} {st : Statement} {p : List Statement} {v : Int} {as : List Assignment}
    (value : s.eval st.value = .ok v) (rest : CarriesOut (s.bind st.name v) p as t) :
    CarriesOut s (st :: p) (⟨st.name, v, st.line⟩ :: as) t

/-- Every statement that is carried out makes one assignment. -/
theorem CarriesOut.length_eq {s t : Store} {p : List Statement} {as : List Assignment}
    (h : CarriesOut s p as t) : as.length = p.length := by
  induction h with
  | done => rfl
  | step _ _ ih => rw [List.length_cons, List.length_cons, ih]

/-- A run carries out the whole program, or what stands before the first statement without a
value. -/
theorem Store.run_cases (s : Store) (p : List Statement) :
    ((s.run p).error? = none ∧ CarriesOut s p (s.run p).assigned (s.run p).store) ∨
      ∃ before st after e, p = before ++ st :: after ∧ (s.run p).error? = some e ∧
        CarriesOut s before (s.run p).assigned (s.run p).store ∧
        (s.run p).store.eval st.value = .error e := by
  induction p generalizing s with
  | nil => exact .inl ⟨rfl, .done⟩
  | cons st p ih =>
    cases hv : s.eval st.value with
    | error e =>
      rw [run_cons_of_error hv]
      exact .inr ⟨[], st, p, e, rfl, rfl, .done, hv⟩
    | ok v =>
      rw [run_cons_of_ok hv]
      rcases ih (s.bind st.name v) with
        ⟨hnone, hall⟩ | ⟨before, st', after, e, rfl, he, hbefore, hst⟩
      · exact .inl ⟨hnone, .step hv hall⟩
      · exact .inr ⟨st :: before, st', after, e, rfl, he, .step hv hbefore, hst⟩

theorem Store.carriesOut_of_run {s : Store} {p : List Statement} (h : (s.run p).error? = none) :
    CarriesOut s p (s.run p).assigned (s.run p).store := by
  rcases s.run_cases p with ⟨-, hall⟩ | ⟨before, st, after, e, -, he, -⟩
  · exact hall
  · simp [h] at he

theorem Store.exists_stop_of_run {s : Store} {p : List Statement} {e : Error}
    (h : (s.run p).error? = some e) : ∃ before st after, p = before ++ st :: after ∧
      CarriesOut s before (s.run p).assigned (s.run p).store ∧
      (s.run p).store.eval st.value = .error e := by
  rcases s.run_cases p with ⟨hnone, -⟩ | ⟨before, st, after, e', hsplit, he, hbefore, hst⟩
  · simp [h] at hnone
  · rw [h] at he
    cases he
    exact ⟨before, st, after, hsplit, hbefore, hst⟩

end Reckoner
