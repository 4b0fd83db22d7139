import Reckoner.Proofs.Report

/-!
# What the printed line tells

The line of a report tells the whole report. It is cut into tokens like a source text, a name,
an equals sign and an integer for every entry, provided that the names are names
(`scans_reportText`), and these tokens can be told apart entry by entry (`entryRow_append_inj`).
The reports of source texts have such names, so no two of them print the same line, and none
prints the line for failures, which is a single name.
-/

namespace Reckoner

/-- The tokens of the text of an entry. -/
def entryRow (e : String × Int) : List Located :=
  ⟨.ident e.1, 1⟩ :: ⟨.assign, 1⟩ :: (Expr.number e.2 1).row 1

theorem scans_entryText {e : String × Int} (h : isName e.1) {after : List Char}
    (ha : ∀ t, Ends t after) : Scans 1 (Report.entryText e).toList (entryRow e) after := by
  have htext : (Report.entryText e).toList =
      e.1.toList ++ ' ' :: '=' :: ' ' :: (Numeral.text e.2).toList := by
    simp [Report.entryText]
  have hspace : Ends (.ident e.1) (' ' :: '=' :: ' ' :: (Numeral.text e.2).toList ++ after) :=
    ends_of_isBlank _ Text.isBlank_space _
  rw [htext]
  exact (Scans.lexeme (isName_iff_lexeme.1 h) hspace).append
    (.cons_space (.cons_sign rfl (.cons_space (Expr.scans_number e.2 1 1 ha))))

/-- The line of a report scans to the tokens of its entries. -/
theorem scans_reportText {entries : List (String × Int)} (h : ∀ e ∈ entries, isName e.1) :
    Scans 1 (Report.text ⟨entries⟩).toList (entries.flatMap entryRow) [] := by
  induction entries with
  | nil => exact .nil
  | cons e rest ih =>
    rw [List.forall_mem_cons] at h
    cases rest with
    | nil => simpa [Report.text] using scans_entryText h.1 ends_nil
    | cons e' rest =>
      have htext : (Report.text ⟨e :: e' :: rest⟩).toList =
          (Report.entryText e).toList ++ ' ' :: (Report.text ⟨e' :: rest⟩).toList := by
        simp [Report.text]
      rw [htext]
      exact (scans_entryText h.1 fun t => ends_of_isBlank t Text.isBlank_space _).append
        (.cons_space (ih h.2))

theorem tokenize_reportText {r : Report} (h : ∀ e ∈ r.entries, isName e.1) :
    tokenize r.text = .ok (r.entries.flatMap entryRow ++ [⟨.eof, 1⟩]) := by
  have := scans_reportText h
  rw [Scans, List.append_nil, scan_nil] at this
  exact this

/-- The tokens of an integer show the integer and where they end. -/
theorem number_row_append_inj {v w : Int} {us ts : List Located}
    (h : (Expr.number v 1).row 1 ++ us = (Expr.number w 1).row 1 ++ ts) : v = w ∧ us = ts := by
  unfold Expr.row at h
  by_cases hv : v < 0
  · by_cases hw : w < 0
    · rw [if_pos hv, if_pos hw] at h
      simpa using h
    · simp [hv, hw] at h
  · by_cases hw : w < 0
    · simp [hv, hw] at h
    · rw [if_neg hv, if_neg hw] at h
      simpa using h

/-- The tokens of an entry show the entry and where they end. -/
theorem entryRow_append_inj {e e' : String × Int} {us ts : List Located}
    (h : entryRow e ++ us = entryRow e' ++ ts) : e = e' ∧ us = ts := by
  obtain ⟨hname, h⟩ := List.cons.inj h
  obtain ⟨hvalue, hrest⟩ := number_row_append_inj (List.cons.inj h).2
  have hname : e.1 = e'.1 := by simpa using hname
  exact ⟨Prod.ext hname hvalue, hrest⟩

theorem entries_eq_of_flatMap_eq {entries entries' : List (String × Int)}
    (h : entries.flatMap entryRow = entries'.flatMap entryRow) : entries = entries' := by
  induction entries generalizing entries' with
  | nil =>
    cases entries' with
    | nil => rfl
    | cons e' rest' => simp [entryRow] at h
  | cons e rest ih =>
    cases entries' with
    | nil => simp [entryRow] at h
    | cons e' rest' =>
      rw [List.flatMap_cons, List.flatMap_cons] at h
      obtain ⟨rfl, hrest⟩ := entryRow_append_inj h
      rw [ih hrest]

/-- Reports with names print the same line only if they are the same. -/
theorem Report.eq_of_text_eq {r r' : Report} (h : ∀ e ∈ r.entries, isName e.1)
    (h' : ∀ e ∈ r'.entries, isName e.1) (htext : r.text = r'.text) : r = r' := by
  have htokens := tokenize_reportText h
  rw [htext, tokenize_reportText h'] at htokens
  have hentries := entries_eq_of_flatMap_eq (List.append_cancel_right (Except.ok.inj htokens))
  obtain ⟨entries⟩ := r
  exact congrArg Report.mk hentries.symm

/-- No report prints the line for failures. -/
theorem Report.text_ne_failureLine {r : Report} (h : ∀ e ∈ r.entries, isName e.1) :
    r.text ≠ failureLine := by
  intro htext
  have hfailure : tokenize failureLine = .ok [⟨.ident "error", 1⟩, ⟨.eof, 1⟩] := by
    decide +kernel
  have htokens := tokenize_reportText h
  rw [htext, hfailure] at htokens
  cases hr : r.entries with
  | nil => simp [hr] at htokens
  | cons e rest => simp [hr, entryRow] at htokens

theorem interpret_of_ok {source : String} {r : Report} (h : evaluate source = .ok r) :
    interpret source = r.text := by
  rw [interpret, h]
  rfl

theorem interpret_of_error {source : String} {e : Error} (h : evaluate source = .error e) :
    interpret source = failureLine := by
  rw [interpret, h]
  rfl

/-- The line for failures is printed for failures only. -/
theorem interpret_eq_failureLine_iff {source : String} :
    interpret source = failureLine ↔ ∃ e, evaluate source = .error e := by
  constructor
  · intro h
    cases hr : evaluate source with
    | error e => exact ⟨e, rfl⟩
    | ok r =>
      rw [interpret_of_ok hr] at h
      exact absurd h (Report.text_ne_failureLine (canonical_of_evaluate hr).names)
  · rintro ⟨e, he⟩
    exact interpret_of_error he

/-- Two source texts print the same line exactly when both fail or both have the same report,
and the line for failures is printed for failures only. -/
theorem interpret_eq_interpret_iff :
    (∀ s₁ s₂ : String, interpret s₁ = interpret s₂ ↔
      (∃ e₁ e₂, evaluate s₁ = .error e₁ ∧ evaluate s₂ = .error e₂) ∨
        ∃ r, evaluate s₁ = .ok r ∧ evaluate s₂ = .ok r) ∧
    ∀ s : String, interpret s = "error" ↔ ∃ e, evaluate s = .error e := by
  refine ⟨fun s₁ s₂ => ⟨fun h => ?_, ?_⟩, fun s => interpret_eq_failureLine_iff⟩
  · cases h₁ : evaluate s₁ with
    | error e₁ =>
      rw [interpret_of_error h₁] at h
      obtain ⟨e₂, h₂⟩ := interpret_eq_failureLine_iff.1 h.symm
      exact .inl ⟨e₁, e₂, rfl, h₂⟩
    | ok r₁ =>
      cases h₂ : evaluate s₂ with
      | error e₂ =>
        rw [interpret_of_error h₂] at h
        obtain ⟨e₁, he₁⟩ := interpret_eq_failureLine_iff.1 h
        cases h₁.symm.trans he₁
      | ok r₂ =>
        rw [interpret_of_ok h₁, interpret_of_ok h₂] at h
        obtain rfl := Report.eq_of_text_eq (canonical_of_evaluate h₁).names
          (canonical_of_evaluate h₂).names h
        exact .inr ⟨r₁, rfl, rfl⟩
  · rintro (⟨e₁, e₂, h₁, h₂⟩ | ⟨r, h₁, h₂⟩)
    · rw [interpret_of_error h₁, interpret_of_error h₂]
    · rw [interpret_of_ok h₁, interpret_of_ok h₂]

end Reckoner
