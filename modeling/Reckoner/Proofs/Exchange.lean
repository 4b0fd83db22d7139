import Reckoner.Proofs.Running

/-!
# Exchanging two statements

Two neighbouring statements are independent (`Statement.Independent`) if they assign different
variables and neither reads the one that the other assigns. Each of them then has the same value
before and after the other, because a value depends on the variables that are read and on no
others (`Store.eval_congr`). So they can be exchanged, as far as values go.

The order of the variables is another matter. Assignments to different variables commute if one of
the variables is there already (`Store.put_comm`), but two new variables are listed in the order in
which they come. From there on the two runs go side by side on stores that hold the same entries
but for two neighbours (`Exchanged`). No look-up sees the difference, and no assignment changes it.
-/

namespace Reckoner

/-! ## Independent statements -/

/-- The statements assign different variables, and neither reads what the other assigns. -/
structure Statement.Independent (a b : Statement) : Prop where
  assigned : key a.name ≠ key b.name
  left : ∀ r ∈ a.value.reads, key r.1 ≠ key b.name
  right : ∀ r ∈ b.value.reads, key r.1 ≠ key a.name

namespace Store

variable {s t : Store}

/-- An expression has the same value in stores that agree on the variables it reads. -/
theorem eval_congr {e : Expr} (h : ∀ r ∈ e.reads, s.get? r.1 = t.get? r.1) :
    s.eval e = t.eval e := by
  induction e with
  | number v line => rfl
  | var name line =>
    have hname : s.get? name = t.get? name := h (name, line) (by simp [Expr.reads])
    simp only [eval_var, value, valueBy, hname]
  | signed sign operand line ih => simp only [eval_signed, ih h]
  | binary left op right line ihl ihr =>
    have hl : s.eval left = t.eval left := ihl fun r hr => h r (by simp [Expr.reads, hr])
    have hr : s.eval right = t.eval right := ihr fun r hr => h r (by simp [Expr.reads, hr])
    simp only [eval_binary, hl, hr]

/-- An assignment to a variable that is not read leaves the value. -/
theorem eval_bind {e : Expr} {name : String} (h : ∀ r ∈ e.reads, key r.1 ≠ key name) (v : Int) :
    (s.bind name v).eval e = s.eval e := by
  refine eval_congr fun r hr => ?_
  rw [get?_bind, if_neg (h r hr)]

/-! ## Entries in another order -/

/-- Assignments to different variables commute if one of them is there already. -/
theorem put_comm {k l : String} (hkl : k ≠ l) (v w : Int) {entries : List (String × Int)}
    (h : k ∈ entries.map Prod.fst ∨ l ∈ entries.map Prod.fst) :
    put l w (put k v entries) = put k v (put l w entries) := by
  induction entries with
  | nil => simp at h
  | cons e rest ih =>
    by_cases hk : e.1 = k
    · have hl : e.1 ≠ l := hk ▸ hkl
      rw [put, if_pos hk, put, if_neg hkl, put, if_neg hl, put, if_pos hk]
    · by_cases hl : e.1 = l
      · rw [put, if_neg hk, put, if_pos hl, put, if_pos hl, put, if_neg hkl.symm]
      · have hrest : k ∈ rest.map Prod.fst ∨ l ∈ rest.map Prod.fst := by
          simpa [Ne.symm hk, Ne.symm hl] using h
        rw [put, if_neg hk, put, if_neg hl, put, if_neg hl, put, if_neg hk, ih hrest]

end Store

/-- The same entries in the same order, but for the neighbours `k` and `l`, which are exchanged.
They stand right behind the entries of `front`, and nowhere else. -/
inductive Exchanged (front : List String) (k l : String) :
    List (String × Int) → List (String × Int) → Prop where
  | intro {before after : List (String × Int)} (v w : Int) (hfront : before.map Prod.fst = front)
    (distinct : k ≠ l) (hk : k ∉ front ++ after.map Prod.fst)
    (hl : l ∉ front ++ after.map Prod.fst) :
    Exchanged front k l (before ++ (k, v) :: (l, w) :: after) (before ++ (l, w) :: (k, v) :: after)

namespace Exchanged

variable {front : List String} {k l : String} {xs ys : List (String × Int)}

theorem names (h : Exchanged front k l xs ys) : ∃ later,
    xs.map Prod.fst = front ++ k :: l :: later ∧ ys.map Prod.fst = front ++ l :: k :: later := by
  cases h with
  | @intro before after v w hfront => exact ⟨after.map Prod.fst, by simp [hfront], by simp [hfront]⟩

theorem notMem (h : Exchanged front k l xs ys) : k ∉ front ∧ l ∉ front := by
  cases h with
  | intro _ _ _ _ hk hl =>
    rw [List.mem_append, not_or] at hk hl
    exact ⟨hk.1, hl.1⟩

/-- Looking a name up gives the same value. -/
theorem lookup_eq (h : Exchanged front k l xs ys) (n : String) : xs.lookup n = ys.lookup n := by
  cases h with
  | intro v w _ distinct =>
    simp only [List.lookup_append, Store.lookup_entry]
    by_cases hk : n = k
    · rw [if_pos hk, if_neg (hk ▸ distinct), if_pos hk]
    · rw [if_neg hk, if_neg hk]

/-- An assignment changes the same entry on both sides, or adds one at the end of both. -/
theorem put (h : Exchanged front k l xs ys) (n : String) (u : Int) :
    Exchanged front k l (Store.put n u xs) (Store.put n u ys) := by
  cases h with
  | @intro before after v w hfront distinct hk hl =>
    -- The entry of `n` stands in front of the two, or is one of them, or stands or comes behind.
    rw [Store.put_append, Store.put_append]
    by_cases hn : n ∈ before.map Prod.fst
    · rw [if_pos hn, if_pos hn]
      refine .intro v w ?_ distinct hk hl
      rw [Store.map_fst_put, if_pos hn, hfront]
    · rw [if_neg hn, if_neg hn]
      by_cases hnk : n = k
      · subst hnk
        simp only [Store.put, if_true, if_neg distinct.symm]
        exact .intro u w hfront distinct hk hl
      · by_cases hnl : n = l
        · subst hnl
          simp only [Store.put, if_true, if_neg distinct]
          exact .intro v u hfront distinct hk hl
        · simp only [Store.put, if_neg (Ne.symm hnk), if_neg (Ne.symm hnl)]
          refine .intro v w hfront distinct ?_ ?_
          · rw [Store.map_fst_put]
            grind
          · rw [Store.map_fst_put]
            grind

end Exchanged

namespace Store

variable {s t : Store}

/-- Two new variables are listed in the order in which they are assigned. -/
theorem entries_bind_bind {name name' : String} (hne : key name ≠ key name')
    (h : key name ∉ s.names) (h' : key name' ∉ s.names) (v w : Int) :
    ((s.bind name v).bind name' w).entries =
      s.entries ++ [(key name, v), (key name', w)] := by
  have hfst : (s.bind name v).entries = s.entries ++ [(key name, v)] := put_of_notMem h v
  have hsnd : key name' ∉ (s.bind name v).names := by
    rw [mem_names_bind, not_or]
    exact ⟨h', hne.symm⟩
  rw [bind, put_of_notMem hsnd, hfst, List.append_assoc]
  rfl

theorem exchanged_bind {name name' : String} (hne : key name ≠ key name')
    (h : key name ∉ s.names) (h' : key name' ∉ s.names) (v w : Int) :
    Exchanged s.names (key name) (key name') ((s.bind name v).bind name' w).entries
      ((s.bind name' w).bind name v).entries := by
  rw [entries_bind_bind hne h h', entries_bind_bind hne.symm h' h]
  exact .intro v w rfl hne (by simpa using h) (by simpa using h')

/-- Runs from stores with two neighbours exchanged go on in the same way, and leave such stores. -/
theorem run_exchanged {front : List String} {k l : String}
    (h : Exchanged front k l s.entries t.entries) (p : List Statement) :
    (s.run p).error? = (t.run p).error? ∧
      Exchanged front k l (s.run p).store.entries (t.run p).store.entries := by
  induction p generalizing s t with
  | nil => exact ⟨rfl, h⟩
  | cons st p ih =>
    have heval : s.eval st.value = t.eval st.value :=
      eval_congr fun r _ => h.lookup_eq (key r.1)
    cases hv : s.eval st.value with
    | error e =>
      rw [run_cons_of_error hv, run_cons_of_error (heval.symm.trans hv)]
      exact ⟨rfl, h⟩
    | ok v =>
      rw [run_cons_of_ok hv, run_cons_of_ok (heval.symm.trans hv)]
      exact ih (h.put (key st.name) v)

end Store

/-! ## Runs with two statements exchanged -/

/-- What the runs of two programs have in common that differ in the order of two statements. The
statements assign `k` and `l`, and `known` are the variables that are there before them. -/
structure Run.Reordered (known : List String) (k l : String) (r r' : Run) : Prop where
  /-- Both runs come to their end, or none of them. -/
  ends : r.error? = none ↔ r'.error? = none
  /-- Every variable has the same value at the end. -/
  values : r.error? = none → ∀ n, r.store.get? n = r'.store.get? n
  /-- If one of the two variables was known, all are listed and reported in the same order. -/
  kept : r.error? = none → k ∈ known ∨ l ∈ known →
    r.store.names = r'.store.names ∧ r.store.report = r'.store.report
  /-- If none was, the two are exchanged, in the order of the variables and in the report. -/
  exchanged : r.error? = none → k ∉ known → l ∉ known →
    (∃ later, r.store.names = known ++ k :: l :: later ∧
      r'.store.names = known ++ l :: k :: later) ∧
    Exchanged known k l r.store.report.entries r'.store.report.entries

namespace Run.Reordered

variable {known : List String} {k l : String} {r r' : Run}

theorem of_stops (h : r.error? ≠ none) (h' : r'.error? ≠ none) : Reordered known k l r r' where
  ends := iff_of_false h h'
  values hnone := absurd hnone h
  kept hnone := absurd hnone h
  exchanged hnone := absurd hnone h

theorem of_store_eq (herror : r.error? = r'.error?) (hstore : r.store = r'.store)
    (h : k ∈ known ∨ l ∈ known) : Reordered known k l r r' where
  ends := by rw [herror]
  values _ n := by rw [hstore]
  kept _ _ := by rw [hstore]; exact ⟨rfl, rfl⟩
  exchanged _ hk hl := absurd h (not_or.2 ⟨hk, hl⟩)

theorem of_exchanged (herror : r.error? = r'.error?)
    (h : Exchanged known k l r.store.entries r'.store.entries) : Reordered known k l r r' where
  ends := by rw [herror]
  values _ n := h.lookup_eq (key n)
  kept _ hkl := absurd hkl (not_or.2 h.notMem)
  exchanged _ _ _ := ⟨h.names, h⟩

end Run.Reordered

namespace Store

/-- What follows two assignments to different variables does not depend on their order, but for the
places of two new variables. -/
theorem run_bind_bind {name name' : String} (hne : key name ≠ key name') (s : Store) (v w : Int)
    (p : List Statement) : Run.Reordered s.names (key name) (key name')
      (((s.bind name v).bind name' w).run p) (((s.bind name' w).bind name v).run p) := by
  by_cases h : key name ∈ s.names ∨ key name' ∈ s.names
  · have hcomm : (s.bind name v).bind name' w = (s.bind name' w).bind name v :=
      congrArg Store.mk (put_comm hne v w h)
    rw [hcomm]
    exact .of_store_eq rfl rfl h
  · rw [not_or] at h
    obtain ⟨herror, hstore⟩ := run_exchanged (exchanged_bind hne h.1 h.2 v w) p
    exact .of_exchanged herror hstore

variable {s : Store} {a b : Statement}

/-- A run is stopped by two statements one of which has no value at the start, if the second does
not read what the first assigns. -/
theorem run_pair_of_error (h : ∀ r ∈ b.value.reads, key r.1 ≠ key a.name) {e : Error}
    (he : s.eval a.value = .error e ∨ s.eval b.value = .error e) (p : List Statement) :
    (s.run (a :: b :: p)).error? ≠ none := by
  cases ha : s.eval a.value with
  | error e' => simp [run_cons_of_error ha]
  | ok v =>
    have hb : (s.bind a.name v).eval b.value = .error e :=
      (eval_bind h v).trans (he.resolve_left (by simp [ha]))
    simp [run_cons_of_ok ha, run_cons_of_error hb]

/-- Independent statements at the start of a program can be exchanged. -/
theorem run_pair (h : a.Independent b) (s : Store) (p : List Statement) :
    Run.Reordered s.names (key a.name) (key b.name)
      (s.run (a :: b :: p)) (s.run (b :: a :: p)) := by
  cases ha : s.eval a.value with
  | error e =>
    exact .of_stops (run_pair_of_error h.right (.inl ha) p) (run_pair_of_error h.left (.inr ha) p)
  | ok v =>
    cases hb : s.eval b.value with
    | error e =>
      exact .of_stops (run_pair_of_error h.right (.inr hb) p)
        (run_pair_of_error h.left (.inl hb) p)
    | ok w =>
      have ha' : (s.bind b.name w).eval a.value = .ok v := (eval_bind h.left w).trans ha
      have hb' : (s.bind a.name v).eval b.value = .ok w := (eval_bind h.right v).trans hb
      obtain ⟨ends, values, kept, exchanged⟩ := run_bind_bind h.assigned s v w p
      rw [run_cons_of_ok ha, run_cons_of_ok hb', run_cons_of_ok hb, run_cons_of_ok ha']
      exact ⟨ends, values, kept, exchanged⟩

end Store

/-- Two neighbouring statements that are independent can be exchanged, whatever stands before and
after them. The program runs to its end in both orders or in none, and leaves the same values. Its
variables are listed in the same order if one of the two assigned ones was there before the
statements, and with these two exchanged otherwise. -/
theorem run_exchange (s : Store) (before after : List Statement) (a b : Statement)
    (h : a.Independent b) :
    Run.Reordered (s.run before).store.names (key a.name) (key b.name)
      (s.run (before ++ [a, b] ++ after)) (s.run (before ++ [b, a] ++ after)) := by
  rw [List.append_assoc, List.append_assoc]
  cases hbefore : (s.run before).error? with
  | some e =>
    rw [Store.run_append_of_some hbefore, Store.run_append_of_some hbefore]
    exact .of_stops (by simp [hbefore]) (by simp [hbefore])
  | none =>
    obtain ⟨ends, values, kept, exchanged⟩ := Store.run_pair h (s.run before).store after
    rw [Store.run_append_of_none hbefore, Store.run_append_of_none hbefore]
    exact ⟨ends, values, kept, exchanged⟩

/-- The sum of `X` and `z`, assigned to `Y`. -/
def sumStatement : Statement :=
  ⟨"Y", .binary (.var "X" 2) .add (.var "z" 2) 2, 2⟩

/-- Twice `z`, assigned to `w`. -/
def doubleStatement : Statement :=
  ⟨"w", .binary (.var "Z" 3) .mul (.number 2 3) 3, 3⟩

/-- The statements with `x = 1` before them and `v = y - W` after them. -/
def framed (p : List Statement) : List Statement :=
  [⟨"x", .number 1 1, 1⟩] ++ p ++ [⟨"v", .binary (.var "y" 4) .sub (.var "W" 4) 4, 4⟩]

/-- Their variables change places if both are new, and all stay where they are if `w` is not. -/
theorem run_exchange_sum :
    sumStatement.Independent doubleStatement ∧
    (∃ later, (Store.run ⟨[("z", 7)]⟩ (framed [sumStatement, doubleStatement])).store.names =
        ["z", "x"] ++ "y" :: "w" :: later ∧
      (Store.run ⟨[("z", 7)]⟩ (framed [doubleStatement, sumStatement])).store.names =
        ["z", "x"] ++ "w" :: "y" :: later) ∧
    (Store.run ⟨[("w", 0), ("z", 7)]⟩ (framed [sumStatement, doubleStatement])).store.report =
      (Store.run ⟨[("w", 0), ("z", 7)]⟩ (framed [doubleStatement, sumStatement])).store.report := by
  have h : sumStatement.Independent doubleStatement :=
    ⟨by decide +kernel, by decide +kernel, by decide +kernel⟩
  have hnew := (run_exchange ⟨[("z", 7)]⟩ _ _ _ _ h).exchanged
    (show (Store.run _ (framed [sumStatement, doubleStatement])).error? = none by decide +kernel)
    (by decide +kernel) (by decide +kernel)
  have hkept := (run_exchange ⟨[("w", 0), ("z", 7)]⟩ _ _ _ _ h).kept
    (show (Store.run _ (framed [sumStatement, doubleStatement])).error? = none by decide +kernel)
    (by decide +kernel)
  have hknown : (Store.run ⟨[("z", 7)]⟩ [⟨"x", .number 1 1, 1⟩]).store.names = ["z", "x"] ∧
      key sumStatement.name = "y" ∧ key doubleStatement.name = "w" := by decide +kernel
  rw [hknown.1, hknown.2.1, hknown.2.2] at hnew
  exact ⟨h, hnew.1, hkept.2⟩

end Reckoner
