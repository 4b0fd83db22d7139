import Reckoner.Interpretation
import Reckoner.Proofs.Lowercase
import Reckoner.Proofs.Names
import Reckoner.Proofs.Printing
import Reckoner.Proofs.Running

/-!
# Reports as programs

A report is written as a program that assigns every variable its value. If its names are
names, interpreting that program gives the report of a store to which the entries were
assigned in order (`evaluate_program`). The entries of a report that a source text gives are
all different, and they stand under their keys (`Report.Canonical`); so assigning them in
order gives them back, and the report is the report of its program.

A report that is made by hand may have any names. If it is the report of its program, it is the
report of a source text, and therefore canonical. So any other report does not come back, whatever
its program may mean.
-/

namespace Reckoner

/-! ## Written programs -/

/-- Interpreting a written program runs it, with every line replaced by the first. -/
theorem evaluate_programText {p : List Statement} (h : ∀ s ∈ p, s.Named) :
    evaluate (programText p) = ((Store.empty.run p).mapLines fun _ => 1).result := by
  rw [evaluate, tokenize_programText h]
  change parse _ >>= _ = _
  rw [parse_programRow]
  change (Store.empty.run _).result = _
  rw [Store.run_reread]

/-- The statement that assigns a reported variable its value. -/
def literal (e : String × Int) : Statement :=
  ⟨e.1, .number e.2 1, 1⟩

theorem Report.program_eq (r : Report) : r.program = programText (r.entries.map literal) := by
  rw [Report.program, programText, List.map_map]
  refine congrArg _ (List.map_congr_left fun e _ => ?_)
  simp [Report.entryText, literal, Statement.text, Expr.text, String.append_assoc]

theorem run_literals (s : Store) (entries : List (String × Int)) :
    (s.run (entries.map literal)).store = s.bindAll entries ∧
      (s.run (entries.map literal)).error? = none := by
  induction entries generalizing s with
  | nil => exact ⟨rfl, rfl⟩
  | cons e rest ih =>
    have heval : s.eval (literal e).value = .ok e.2 := rfl
    rw [List.map_cons, Store.run_cons_of_ok heval, Store.bindAll_cons]
    exact ih (s.bind e.1 e.2)

/-- The program of a report whose names are names assigns the entries in order. -/
theorem evaluate_program {r : Report} (h : ∀ e ∈ r.entries, isName e.1) :
    evaluate r.program = .ok (Store.empty.bindAll r.entries).report := by
  have hnamed : ∀ s ∈ r.entries.map literal, s.Named := by
    intro s hs
    obtain ⟨e, he, rfl⟩ := List.mem_map.1 hs
    exact ⟨h e he, by simp [literal, Expr.reads]⟩
  obtain ⟨hstore, herror⟩ := run_literals Store.empty r.entries
  rw [r.program_eq, evaluate_programText hnamed, Run.result, Run.mapLines, Run.relabel, herror,
    hstore]
  rfl

/-! ## Reports of source texts -/

theorem bind_eq_ok_iff {α β : Type} {x : Except Error α} {f : α → Except Error β} {b : β} :
    x >>= f = .ok b ↔ ∃ a, x = .ok a ∧ f a = .ok b := by
  cases x <;> simp [bind, Except.bind]

theorem bind_eq_error_iff {α β : Type} {x : Except Error α} {f : α → Except Error β} {e : Error} :
    x >>= f = .error e ↔ x = .error e ∨ ∃ a, x = .ok a ∧ f a = .error e := by
  cases x <;> simp [bind, Except.bind]

theorem result_eq_ok_iff {run : Run} {r : Report} :
    run.result = .ok r ↔ run.error? = none ∧ run.store.report = r := by
  unfold Run.result
  split <;> simp_all

/-- A source text gives a report when it has tokens, these spell a program, and the program
runs without an error; the report is that of the store it leaves. -/
theorem evaluate_eq_ok_iff {source : String} {r : Report} :
    evaluate source = .ok r ↔ ∃ ts p, tokenize source = .ok ts ∧ parse ts = .ok p ∧
      (Store.empty.run p).error? = none ∧ (Store.empty.run p).store.report = r := by
  simp only [evaluate, bind_eq_ok_iff, result_eq_ok_iff, exists_and_left]

theorem result_eq_error_iff {run : Run} {e : Error} :
    run.result = .error e ↔ run.error? = some e := by
  unfold Run.result
  split <;> simp_all

/-- A source text fails where the first of its stages does. -/
theorem evaluate_eq_error_iff {source : String} {e : Error} :
    evaluate source = .error e ↔ tokenize source = .error e ∨
      ∃ ts, tokenize source = .ok ts ∧ (parse ts = .error e ∨
        ∃ p, parse ts = .ok p ∧ (Store.empty.run p).error? = some e) := by
  rw [evaluate]
  simp only [bind_eq_error_iff, result_eq_error_iff]

/-- The entries of a report are named by different names in lower case. -/
structure Report.Canonical (r : Report) : Prop where
  distinct : (r.entries.map Prod.fst).Nodup
  names : ∀ e ∈ r.entries, isName e.1
  keys : ∀ e ∈ r.entries, key e.1 = e.1

theorem canonical_of_evaluate {source : String} {r : Report} (h : evaluate source = .ok r) :
    r.Canonical := by
  obtain ⟨ts, p, hts, hp, -, rfl⟩ := evaluate_eq_ok_iff.1 h
  -- Every reported name is the key of a name that the program assigns.
  have hname : ∀ e ∈ (Store.empty.run p).store.entries, ∃ st ∈ p, e.1 = key st.name := by
    intro e he
    rcases Store.mem_names_run (List.mem_map_of_mem he) with hempty | hst
    · simp [Store.empty, Store.names] at hempty
    · exact hst
  have hempty : Store.empty.names.Nodup := List.nodup_nil
  refine ⟨Store.nodup_names_run hempty p, fun e he => ?_, fun e he => ?_⟩
  · obtain ⟨st, hst, heq⟩ := hname e he
    rw [heq]
    exact isName_key (isName_of_parse hts hp st hst)
  · obtain ⟨st, hst, heq⟩ := hname e he
    rw [heq]
    exact key_key st.name

/-- The program of a canonical report gives the report. -/
theorem Report.Canonical.evaluate_program {r : Report} (h : r.Canonical) :
    evaluate r.program = .ok r := by
  have hentries := Store.entries_bindAll (s := Store.empty) h.keys h.distinct
  rw [Reckoner.evaluate_program h.names, Store.report, hentries]
  rfl

/-- The report of a source text is the report of its program, which prints the same line. -/
theorem evaluate_program_of_evaluate (source : String) (r : Report)
    (h : evaluate source = .ok r) :
    evaluate r.program = .ok r ∧ interpret r.program = interpret source := by
  have hprogram := (canonical_of_evaluate h).evaluate_program
  refine ⟨hprogram, ?_⟩
  rw [interpret, interpret, hprogram, h]

/-- A name in upper case, a negative value, a reassignment and a value beyond sixty-four bits. -/
def reassigned : List Statement :=
  [⟨"X", .number 2 1, 1⟩, ⟨"y_1", .binary (.number (-3) 1) .mul (.var "x" 1) 1, 1⟩,
    ⟨"x", .number 123456789012345678901 1, 1⟩]

theorem evaluate_program_of_reassigned :
    evaluate "X = 2; y_1 = (-3 * x); x = 123456789012345678901;" =
        .ok ⟨[("x", 123456789012345678901), ("y_1", -6)]⟩ ∧
      evaluate "x = 123456789012345678901; y_1 = -6;" =
        .ok ⟨[("x", 123456789012345678901), ("y_1", -6)]⟩ ∧
      interpret "x = 123456789012345678901; y_1 = -6;" =
        interpret "X = 2; y_1 = (-3 * x); x = 123456789012345678901;" := by
  have htext : programText reassigned = "X = 2; y_1 = (-3 * x); x = 123456789012345678901;" := by
    decide +kernel
  have hrun : ((Store.empty.run reassigned).mapLines fun _ => 1).result =
      .ok ⟨[("x", 123456789012345678901), ("y_1", -6)]⟩ := by
    decide +kernel
  have hprogram : Report.program ⟨[("x", 123456789012345678901), ("y_1", -6)]⟩ =
      "x = 123456789012345678901; y_1 = -6;" := by
    decide +kernel
  have h := (evaluate_programText (p := reassigned) (by decide)).trans hrun
  rw [← htext, ← hprogram]
  exact ⟨h, evaluate_program_of_evaluate _ _ h⟩

/-! ## Reports made by hand -/

theorem Report.canonical_iff {r : Report} : r.Canonical ↔
    (r.entries.map Prod.fst).Nodup ∧ ∀ e ∈ r.entries, isLowerName e.1 := by
  simp only [isLowerName_iff]
  constructor
  · rintro ⟨distinct, names, keys⟩
    exact ⟨distinct, fun e he => ⟨names e he, keys e he⟩⟩
  · rintro ⟨distinct, h⟩
    exact ⟨distinct, fun e he => (h e he).1, fun e he => (h e he).2⟩

/-- A report is the report of its program exactly when its entries are named by different names in
lower case. If they are named by names at all, its program gives the report of a store to which
they were assigned in order. -/
theorem evaluate_program_eq_self_iff (entries : List (String × Int)) :
    (evaluate (Report.program ⟨entries⟩) = .ok ⟨entries⟩ ↔
      (entries.map Prod.fst).Nodup ∧ ∀ e ∈ entries, isLowerName e.1) ∧
    ((∀ e ∈ entries, isName e.1) →
      evaluate (Report.program ⟨entries⟩) = .ok (Store.empty.bindAll entries).report) := by
  refine ⟨?_, fun h => evaluate_program h⟩
  rw [← Report.canonical_iff (r := ⟨entries⟩)]
  -- What any source text gives is canonical, so nothing has to be known about the printed program.
  exact ⟨canonical_of_evaluate, Report.Canonical.evaluate_program⟩

/-- Two spellings of one variable give one entry. A name that is a program in part gives another
report, and two entries of one name do, too. -/
theorem evaluate_program_eq_self_spelled :
    evaluate (Report.program ⟨[("X", 1), ("y", 0), ("x", -2)]⟩) = .ok ⟨[("x", -2), ("y", 0)]⟩ ∧
    evaluate (Report.program ⟨[("y = 1; x", 2)]⟩) ≠ .ok ⟨[("y = 1; x", 2)]⟩ ∧
    evaluate (Report.program ⟨[("x", 1), ("x", 1)]⟩) ≠ .ok ⟨[("x", 1), ("x", 1)]⟩ := by
  have hbound : (Store.empty.bindAll [("X", 1), ("y", 0), ("x", -2)]).report =
      ⟨[("x", -2), ("y", 0)]⟩ := by decide +kernel
  refine ⟨?_, fun h => ?_, fun h => ?_⟩
  · rw [(evaluate_program_eq_self_iff _).2 (by decide), hbound]
  · exact absurd ((evaluate_program_eq_self_iff _).1.1 h) (by decide)
  · exact absurd ((evaluate_program_eq_self_iff _).1.1 h) (by decide)

end Reckoner
