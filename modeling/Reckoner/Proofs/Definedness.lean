import Reckoner.Proofs.Running

/-!
# Variables that have a value when they are read

Whether a run succeeds can be told without running. A program covers its reads (`Covers`)
when every variable that a statement reads is in the store at the start or is assigned by an
earlier statement. A run succeeds exactly on programs that cover their reads, and stops at
the first read that is not covered (`FirstUncovered`) otherwise : the leftmost one of the
first statement that has one.

Between the two stands a check that goes through the reads in order and computes that read
(`uncovered?`). It looks at the names that statements assign and read, and at nothing else.
-/

namespace Reckoner

/-! ## Covered reads -/

/-- The name that a statement assigns and the variables that it reads. -/
def Statement.footprint (s : Statement) : String × List (String × Nat) :=
  (s.name, s.value.reads)

/-- The variable called `name` is one of `known`, or one of the statements assigns it. -/
def Assigned (known : List String) (before : List Statement) (name : String) : Prop :=
  key name ∈ known ∨ ∃ st ∈ before, key name = key st.name

/-- Every variable that a statement reads is one of `known`, or a statement before it
assigns it. -/
def Covers (known : List String) (p : List Statement) : Prop :=
  ∀ before st after, p = before ++ st :: after →
    ∀ r ∈ st.value.reads, Assigned known before r.1

/-- The first read that is not covered : the statements before it cover their reads, and so
do the reads to its left. -/
def FirstUncovered (known : List String) (p : List Statement) (r : String × Nat) : Prop :=
  ∃ before st after left right, p = before ++ st :: after ∧ Covers known before ∧
    st.value.reads = left ++ r :: right ∧ (∀ q ∈ left, Assigned known before q.1) ∧
    ¬Assigned known before r.1

variable {known : List String} {st : Statement} {p : List Statement}

theorem assigned_nil_iff {name : String} : Assigned known [] name ↔ key name ∈ known := by
  simp [Assigned]

/-- An assigned name is known to the statements that follow. -/
theorem assigned_cons_iff {before : List Statement} {name : String} :
    Assigned known (st :: before) name ↔ Assigned (key st.name :: known) before name := by
  simp only [Assigned, List.mem_cons]
  grind

theorem covers_nil : Covers known [] := by
  intro before st after h
  simp at h

theorem covers_cons_iff : Covers known (st :: p) ↔
    (∀ r ∈ st.value.reads, key r.1 ∈ known) ∧ Covers (key st.name :: known) p := by
  constructor
  · intro h
    refine ⟨fun r hr => assigned_nil_iff.1 (h [] st p rfl r hr), ?_⟩
    rintro before st' after rfl r hr
    exact assigned_cons_iff.1 (h (st :: before) st' after rfl r hr)
  · rintro ⟨hst, hp⟩ before st' after h r hr
    rcases List.cons_eq_append_iff.1 h with ⟨rfl, hcons⟩ | ⟨before', rfl, rfl⟩
    · obtain ⟨rfl, rfl⟩ := List.cons.inj hcons
      exact assigned_nil_iff.2 (hst r hr)
    · exact assigned_cons_iff.2 (hp before' st' after rfl r hr)

/-! ## The check -/

/-- The first read of a variable that is not one of `known`. -/
def unknown? (known : List String) (reads : List (String × Nat)) : Option (String × Nat) :=
  reads.find? fun r => key r.1 ∉ known

/-- The first read of a program whose variable is not one of `known` and not assigned before. -/
def uncovered? (known : List String) : List Statement → Option (String × Nat)
  | [] => none
  | st :: p => (unknown? known st.value.reads).or (uncovered? (key st.name :: known) p)

theorem unknown?_append (left right : List (String × Nat)) :
    unknown? known (left ++ right) = (unknown? known left).or (unknown? known right) :=
  List.find?_append

theorem unknown?_eq_none_iff {reads : List (String × Nat)} :
    unknown? known reads = none ↔ ∀ r ∈ reads, key r.1 ∈ known := by
  simp [unknown?]

theorem unknown?_eq_some_iff {reads : List (String × Nat)} {r : String × Nat} :
    unknown? known reads = some r ↔ ∃ left right, reads = left ++ r :: right ∧
      (∀ q ∈ left, key q.1 ∈ known) ∧ key r.1 ∉ known := by
  simp only [unknown?, List.find?_eq_some_iff_append, decide_not, Bool.not_not,
    Bool.not_eq_true', decide_eq_false_iff_not, decide_eq_true_eq]
  grind

/-- The check depends on which names are known and not on how they are listed. -/
theorem uncovered?_congr {known known' : List String} (h : ∀ n, n ∈ known ↔ n ∈ known')
    (p : List Statement) : uncovered? known p = uncovered? known' p := by
  induction p generalizing known known' with
  | nil => rfl
  | cons st p ih =>
    have hreads : unknown? known st.value.reads = unknown? known' st.value.reads := by
      simp only [unknown?, h]
    have hnames : ∀ n, n ∈ key st.name :: known ↔ n ∈ key st.name :: known' := by
      simp [h]
    rw [uncovered?, uncovered?, hreads, ih hnames]

/-- The check looks at nothing but footprints. -/
theorem uncovered?_eq_of_footprint {p q : List Statement}
    (h : p.map Statement.footprint = q.map Statement.footprint) :
    uncovered? known p = uncovered? known q := by
  induction p generalizing known q with
  | nil => rw [List.map_eq_nil_iff.1 h.symm]
  | cons st p ih =>
    obtain ⟨st', q, rfl, hst, hq⟩ := List.map_eq_cons_iff.1 h.symm
    obtain ⟨hname, hreads⟩ := Prod.mk.inj hst
    rw [uncovered?, uncovered?, ← hname, ← hreads, ih hq.symm]

theorem uncovered?_eq_none_iff : uncovered? known p = none ↔ Covers known p := by
  induction p generalizing known with
  | nil => exact iff_of_true rfl covers_nil
  | cons st p ih =>
    rw [uncovered?, Option.or_eq_none_iff, unknown?_eq_none_iff, ih, covers_cons_iff]

theorem firstUncovered_cons_iff {r : String × Nat} : FirstUncovered known (st :: p) r ↔
    unknown? known st.value.reads = some r ∨
      unknown? known st.value.reads = none ∧ FirstUncovered (key st.name :: known) p r := by
  rw [unknown?_eq_some_iff, unknown?_eq_none_iff]
  constructor
  · rintro ⟨before, st', after, left, right, h, hbefore, hreads, hleft, hr⟩
    rcases List.cons_eq_append_iff.1 h with ⟨rfl, hcons⟩ | ⟨before', rfl, rfl⟩
    · obtain ⟨rfl, rfl⟩ := List.cons.inj hcons
      simp only [assigned_nil_iff] at hleft hr
      exact .inl ⟨left, right, hreads, hleft, hr⟩
    · rw [covers_cons_iff] at hbefore
      simp only [assigned_cons_iff] at hleft hr
      exact .inr ⟨hbefore.1, before', st', after, left, right, rfl, hbefore.2, hreads, hleft, hr⟩
  · rintro (⟨left, right, hreads, hleft, hr⟩ |
      ⟨hst, before, st', after, left, right, rfl, hbefore, hreads, hleft, hr⟩)
    · simp only [← assigned_nil_iff] at hleft hr
      exact ⟨[], st, p, left, right, rfl, covers_nil, hreads, hleft, hr⟩
    · simp only [← assigned_cons_iff] at hleft hr
      exact ⟨st :: before, st', after, left, right, rfl, covers_cons_iff.2 ⟨hst, hbefore⟩,
        hreads, hleft, hr⟩

theorem uncovered?_eq_some_iff {r : String × Nat} :
    uncovered? known p = some r ↔ FirstUncovered known p r := by
  induction p generalizing known with
  | nil =>
    refine iff_of_false (by simp [uncovered?]) ?_
    rintro ⟨before, st, after, left, right, h, -⟩
    simp at h
  | cons st p ih => rw [uncovered?, Option.or_eq_some_iff, firstUncovered_cons_iff, ih]

/-! ## Runs and the check -/

/-- The error of reading a variable that has no value. -/
def unknownRead (r : String × Nat) : Error :=
  ⟨r.2, .unknownVariable r.1⟩

namespace Store

theorem get?_eq_none_iff {s : Store} {name : String} :
    s.get? name = none ↔ key name ∉ s.names :=
  lookup_eq_none_iff

/-- An expression whose variables have values has one. -/
theorem eval_of_unknown?_eq_none (s : Store) {e : Expr} (h : unknown? s.names e.reads = none) :
    ∃ v, s.eval e = .ok v := by
  induction e with
  | number v line => exact ⟨v, rfl⟩
  | var name line =>
    have hname : key name ∈ s.names := unknown?_eq_none_iff.1 h (name, line) (by simp [Expr.reads])
    cases hv : s.get? name with
    | none => exact absurd hname (get?_eq_none_iff.1 hv)
    | some v => exact ⟨v, value_of_some hv line⟩
  | signed sign operand line ih =>
    obtain ⟨a, ha⟩ := ih h
    exact ⟨sign.apply a, by rw [eval_signed, ha]; rfl⟩
  | binary left op right line ihl ihr =>
    rw [Expr.reads, unknown?_append, Option.or_eq_none_iff] at h
    obtain ⟨a, ha⟩ := ihl h.1
    obtain ⟨b, hb⟩ := ihr h.2
    exact ⟨op.apply a b, by rw [eval_binary, ha, hb]; rfl⟩

/-- An expression fails at the first of its variables that has no value. -/
theorem eval_of_unknown?_eq_some (s : Store) {e : Expr} {r : String × Nat}
    (h : unknown? s.names e.reads = some r) : s.eval e = .error (unknownRead r) := by
  induction e with
  | number v line => simp [Expr.reads, unknown?] at h
  | var name line =>
    have hname : key name ∉ s.names ∧ (name, line) = r := by
      simpa [Expr.reads, unknown?] using h
    obtain ⟨hnot, rfl⟩ := hname
    exact value_of_none (get?_eq_none_iff.2 hnot) line
  | signed sign operand line ih => rw [eval_signed, ih h]; rfl
  | binary left op right line ihl ihr =>
    rw [Expr.reads, unknown?_append, Option.or_eq_some_iff] at h
    rcases h with hl | ⟨hl, hr⟩
    · rw [eval_binary, ihl hl]
      rfl
    · obtain ⟨a, ha⟩ := s.eval_of_unknown?_eq_none hl
      rw [eval_binary, ha, ihr hr]
      rfl

/-- A run stops exactly at the read that the check finds. -/
theorem error?_run (s : Store) (p : List Statement) :
    (s.run p).error? = (uncovered? s.names p).map unknownRead := by
  induction p generalizing s with
  | nil => rfl
  | cons st p ih =>
    rw [uncovered?]
    cases h : unknown? s.names st.value.reads with
    | some r =>
      rw [run_cons_of_error (s.eval_of_unknown?_eq_some h)]
      rfl
    | none =>
      obtain ⟨v, hv⟩ := s.eval_of_unknown?_eq_none h
      have hnames : ∀ n, n ∈ (s.bind st.name v).names ↔ n ∈ key st.name :: s.names := by
        intro n
        rw [mem_names_bind, List.mem_cons, or_comm]
      rw [run_cons_of_ok hv, Option.none_or, ← uncovered?_congr hnames p]
      exact ih (s.bind st.name v)

/-- A run is stopped by a variable that the program reads. -/
theorem exists_read_of_error? {s : Store} {p : List Statement} {e : Error}
    (h : (s.run p).error? = some e) :
    ∃ st ∈ p, ∃ r ∈ st.value.reads, e = unknownRead r := by
  rw [error?_run, Option.map_eq_some_iff] at h
  obtain ⟨r, hr, rfl⟩ := h
  obtain ⟨before, st, after, left, right, rfl, -, hreads, -⟩ := uncovered?_eq_some_iff.1 hr
  exact ⟨st, by simp, r, by simp [hreads], rfl⟩

end Store

/-- A run succeeds exactly when every variable is in the store or assigned by an earlier
statement when it is read. Otherwise the error is the leftmost read without a value in the
first statement that has one, with the name as written. So the values in the store, the
integers and the operators of the program have no part in it. -/
theorem run_stops_at_first_uncovered (s : Store) (p : List Statement) :
    ((s.run p).error? = none ↔ Covers s.names p) ∧
    (∀ e, (s.run p).error? = some e ↔
      ∃ name line, FirstUncovered s.names p (name, line) ∧ e = ⟨line, .unknownVariable name⟩) ∧
    ∀ (s' : Store) (p' : List Statement), (∀ n, n ∈ s'.names ↔ n ∈ s.names) →
      p'.map Statement.footprint = p.map Statement.footprint →
      (s'.run p').error? = (s.run p).error? := by
  refine ⟨?_, fun e => ?_, fun s' p' hnames hreads => ?_⟩
  · rw [s.error?_run, Option.map_eq_none_iff, uncovered?_eq_none_iff]
  · simp only [s.error?_run, Option.map_eq_some_iff, Prod.exists, uncovered?_eq_some_iff]
    constructor
    · rintro ⟨name, line, h, rfl⟩
      exact ⟨name, line, h, rfl⟩
    · rintro ⟨name, line, h, rfl⟩
      exact ⟨name, line, h, rfl⟩
  · rw [s.error?_run, s'.error?_run, uncovered?_congr hnames, uncovered?_eq_of_footprint hreads]

/-- A variable that the first statement assigns in the other letter case, one that nothing
assigns, and another one to its right. -/
def uncoveredProgram (op : Operator) (v : Int) : List Statement :=
  [⟨"Y", .binary (.var "X" 1) op (.number v 1) 1, 1⟩,
    ⟨"z", .binary (.signed .minus (.var "y" 2) 2) op (.binary (.var "W" 3) op (.var "u" 4) 3) 2, 2⟩]

/-- The run stops at the first of the two, whatever the store holds and the program computes. -/
theorem run_stops_at_uncoveredProgram :
    (Store.run ⟨[("x", 1)]⟩ (uncoveredProgram .add 2)).error? =
        some ⟨3, .unknownVariable "W"⟩ ∧
      (Store.run ⟨[("x", -7)]⟩ (uncoveredProgram .mul 0)).error? =
        some ⟨3, .unknownVariable "W"⟩ := by
  obtain ⟨-, hstops, hsame⟩ := run_stops_at_first_uncovered ⟨[("x", 1)]⟩ (uncoveredProgram .add 2)
  have hfirst : uncovered? ["x"] (uncoveredProgram .add 2) = some ("W", 3) := by decide +kernel
  have h := (hstops _).2 ⟨"W", 3, uncovered?_eq_some_iff.1 hfirst, rfl⟩
  exact ⟨h, (hsame ⟨[("x", -7)]⟩ (uncoveredProgram .mul 0) (fun _ => Iff.rfl) rfl).trans h⟩

end Reckoner
