import Reckoner.Proofs.Consistency

/-!
# Runs that are stopped

A run is stopped between two statements. Those before the failing one are carried out completely,
and the failing one does nothing : the store that is left is the one that they leave
(`Store.run_of_stop`). So a store does not tell whether a run on it was stopped, and what runs on
it later goes on from the statements that were carried out.
-/

namespace Reckoner

/-- Statements that are carried out run to their end. -/
theorem CarriesOut.run_eq {s t : Store} {p : List Statement} {as : List Assignment}
    (h : CarriesOut s p as t) : s.run p = ⟨as, t, none⟩ := by
  induction h with
  | done => rfl
  | step hv _ ih => rw [Store.run_cons_of_ok hv, ih]

namespace Store

variable {s : Store}

theorem assigns_of_error {st : Statement} {e : Error} (h : s.eval st.value = .error e) :
    s.assigns st = .error e := by
  rw [assigns, h]
  rfl

/-- A statement that fails changes nothing. -/
theorem perform_of_error {st : Statement} {e : Error} (h : s.assigns st = .error e) :
    s.perform (.statement st) = s := by
  rw [perform, h]

/-- A run that is stopped leaves what the statements before the failing one leave. -/
theorem run_of_stop {p : List Statement} {e : Error} (h : (s.run p).error? = some e) :
    ∃ before st after, p = before ++ st :: after ∧
      s.run before = ⟨(s.run p).assigned, (s.run p).store, none⟩ ∧
      (s.run p).store.assigns st = .error e := by
  obtain ⟨before, st, after, hsplit, hbefore, hst⟩ := exists_stop_of_run h
  exact ⟨before, st, after, hsplit, hbefore.run_eq, assigns_of_error hst⟩

end Store

/-- If a run is stopped by an error, then some number of statements was carried out to the end, the
store that is left is the one that they leave, and the next statement fails on it with this error
and changes nothing. What runs on that store later goes on as if there had been no other statements.
Two programs one after the other run like the first and, if it comes to its end, the second on the
store that it left. -/
theorem run_stops_between_statements (s : Store) (p : List Statement) :
    (∀ e, (s.run p).error? = some e → ∃ k, ∃ _ : k < p.length,
      (s.run (p.take k)).error? = none ∧ (s.run (p.take k)).store = (s.run p).store ∧
      (s.run p).store.assigns p[k] = .error e ∧
      (s.run p).store.perform (.statement p[k]) = (s.run p).store ∧
      ∀ q, ((s.run p).store.run q).error? = (s.run (p.take k ++ q)).error? ∧
        ((s.run p).store.run q).store = (s.run (p.take k ++ q)).store) ∧
    ∀ q, ((s.run p).error? = none →
        (s.run (p ++ q)).error? = ((s.run p).store.run q).error? ∧
          (s.run (p ++ q)).store = ((s.run p).store.run q).store) ∧
      ∀ e, (s.run p).error? = some e →
        (s.run (p ++ q)).error? = some e ∧ (s.run (p ++ q)).store = (s.run p).store := by
  refine ⟨fun e he => ?_, fun q => ⟨fun hnone => ?_, fun e he => ?_⟩⟩
  · obtain ⟨before, st, after, hsplit, hbefore, hst⟩ := Store.run_of_stop he
    have hlength : before.length < p.length := by simp [hsplit]
    have htake : p.take before.length = before := by simp [hsplit]
    have hget : p[before.length] = st := by simp [hsplit]
    refine ⟨before.length, hlength, ?_⟩
    rw [htake, hget]
    have hnone : (s.run before).error? = none := by rw [hbefore]
    refine ⟨hnone, by rw [hbefore], hst, Store.perform_of_error hst, fun q => ?_⟩
    rw [Store.run_append_of_none hnone, hbefore]
    exact ⟨rfl, rfl⟩
  · rw [Store.run_append_of_none hnone]
    exact ⟨rfl, rfl⟩
  · rw [Store.run_append_of_some he]
    exact ⟨he, rfl⟩

/-- A new value for `x` whose second operand has none, after `x = 1; y = X * 2;`. -/
def brokenProgram : List Statement :=
  [⟨"x", .number 1 1, 1⟩, ⟨"y", .binary (.var "X" 2) .mul (.number 2 2) 2, 2⟩,
    ⟨"X", .binary (.var "y" 3) .add (.var "u" 3) 3, 3⟩, ⟨"w", .number 5 4, 4⟩]

/-- The variable `x` keeps its value, and nothing that follows is reached. -/
theorem run_stops_between_statements_broken :
    (Store.empty.run brokenProgram).error? = some ⟨3, .unknownVariable "u"⟩ ∧
    (∃ k < brokenProgram.length,
      (Store.empty.run (brokenProgram.take k)).store = ⟨[("x", 1), ("y", 2)]⟩) ∧
    (Store.empty.run (brokenProgram ++ [⟨"u", .number 0 5, 5⟩])).store =
      ⟨[("x", 1), ("y", 2)]⟩ := by
  have herror : (Store.empty.run brokenProgram).error? = some ⟨3, .unknownVariable "u"⟩ := by
    decide +kernel
  have hstore : (Store.empty.run brokenProgram).store = ⟨[("x", 1), ("y", 2)]⟩ := by
    decide +kernel
  obtain ⟨hstops, hfollows⟩ := run_stops_between_statements .empty brokenProgram
  obtain ⟨k, hk, -, hleft, -⟩ := hstops _ herror
  exact ⟨herror, ⟨k, hk, hleft.trans hstore⟩, ((hfollows _).2 _ herror).2.trans hstore⟩

end Reckoner
