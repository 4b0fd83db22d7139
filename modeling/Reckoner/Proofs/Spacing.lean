import Mathlib.Logic.Relation
import Reckoner.Proofs.Report

/-!
# Blank space

Blank space keeps lexemes apart and moves the line on, and that is all it does. An edit of the
blank space of a text (`Respaced`) puts other blank space in the place of some, or takes it
away or adds it where nothing needs to be kept apart (`Loose`). Edited texts scan to the same
tokens or to the same error, up to lines (`alike_of_respaced`), and the stages behind the
scanner do not look at lines. So however often a text is edited, it keeps its report, or fails
for the same cause (`evaluate_respaced`).
-/

namespace Reckoner

/-! ## Edits -/

/-- The characters that are tokens by themselves. -/
def signs : List Char :=
  ['+', '-', '*', '=', '(', ')', ';']

/-- Nothing has to be kept apart between the two texts : one of them is empty, or a sign stands
on one side. -/
inductive Loose : List Char → List Char → Prop where
  | start {after : List Char} : Loose [] after
  | finish {before : List Char} : Loose before []
  | afterSign {before after : List Char} {c : Char} (sign : c ∈ signs) :
    Loose (before ++ [c]) after
  | beforeSign {before after : List Char} {c : Char} (sign : c ∈ signs) :
    Loose before (c :: after)

/-- All characters are blank. -/
def Blank (gap : List Char) : Prop :=
  gap.all Text.isBlank

instance (gap : List Char) : Decidable (Blank gap) :=
  inferInstanceAs (Decidable (gap.all Text.isBlank = true))

/-- One edit of the blank space of a text. -/
inductive Respaced : List Char → List Char → Prop where
  /-- Blank space where some has to stand. -/
  | replace {before gap gap' after : List Char} (blank : Blank gap) (blank' : Blank gap')
    (ne : gap ≠ []) (ne' : gap' ≠ []) : Respaced (before ++ gap ++ after) (before ++ gap' ++ after)
  /-- Blank space where none has to stand. -/
  | loose {before gap gap' after : List Char} (blank : Blank gap) (blank' : Blank gap')
    (loose : Loose before after) : Respaced (before ++ gap ++ after) (before ++ gap' ++ after)

/-! ## Texts that scan alike -/

/-- Wherever they stand, the texts have the same tokens, or the same error, up to lines. -/
def Alike (cs ds : List Char) : Prop :=
  ∀ line line', scanRelabeled (.ofLines fun _ => 0) line cs =
    scanRelabeled (.ofLines fun _ => 0) line' ds

/-- The text prolongs no lexeme before it. -/
def Detached (after : List Char) : Prop :=
  ∀ t, Ends t after

theorem Blank.isBlank {gap : List Char} (h : Blank gap) : ∀ c ∈ gap, Text.isBlank c :=
  List.all_eq_true.1 h

theorem Blank.detached {gap : List Char} (h : Blank gap) : Detached gap := by
  intro t
  cases gap with
  | nil => exact ends_nil t
  | cons c gap => exact ends_of_isBlank t (h.isBlank c (by simp)) gap

theorem exists_ofSign? {c : Char} (h : c ∈ signs) : ∃ t, Token.ofSign? c = some t := by
  simp only [signs, List.mem_cons, List.not_mem_nil, or_false] at h
  rcases h with rfl | rfl | rfl | rfl | rfl | rfl | rfl <;> exact ⟨_, rfl⟩

theorem detached_of_mem_signs {c : Char} (h : c ∈ signs) (cs : List Char) :
    Detached (c :: cs) := by
  intro t
  obtain ⟨u, hu⟩ := exists_ofSign? h
  exact ends_of_not_continuesName t (not_blank_of_ofSign? hu).2 cs

namespace Alike

variable {cs ds : List Char}

theorem nil : Alike [] [] := by
  intro line line'
  rw [scanRelabeled, scanRelabeled, scan_nil, scan_nil]
  rfl

theorem trans {bs : List Char} (h : Alike bs cs) (h' : Alike cs ds) : Alike bs ds :=
  fun line line' => (h line line).trans (h' line line')

theorem gap {gap gap' : List Char} (hgap : Blank gap) (hgap' : Blank gap') (h : Alike cs ds) :
    Alike (gap ++ cs) (gap' ++ ds) := by
  intro line line'
  rw [scanRelabeled, scanRelabeled, scan_gap line hgap.isBlank,
    scan_gap line' hgap'.isBlank]
  exact h _ _

theorem lexeme {l : List Char} {t : Token} (hl : Lexeme l t) (hcs : Ends t cs) (hds : Ends t ds)
    (h : Alike cs ds) : Alike (l ++ cs) (l ++ ds) := by
  intro line line'
  rw [scanRelabeled_lexeme _ line hl hcs, scanRelabeled_lexeme _ line' hl hds, h line line']
  rfl

/-- A text before two texts that scan alike and do not run together with it. -/
theorem append_left (hcs : Detached cs) (hds : Detached ds) (h : Alike cs ds)
    (before : List Char) : Alike (before ++ cs) (before ++ ds) := by
  induction before using text_induction with
  | nil => exact h
  | blank c before hc ih =>
    have hgap : Blank [c] := by simpa [Blank] using hc
    have hbehind : Alike ([c] ++ (before ++ cs)) ([c] ++ (before ++ ds)) := gap hgap hgap ih
    exact hbehind
  | lexeme l t before hl ha ih =>
    rw [List.append_assoc, List.append_assoc]
    exact lexeme hl (ha.append fun _ => hcs t) (ha.append fun _ => hds t) ih
  -- At a fault the scanner stops and does not see what is put behind.
  | leadingZero l before hl ha =>
    intro line line'
    rw [List.append_assoc, List.append_assoc, scanRelabeled, scanRelabeled,
      scan_leadingZero line hl (ha.append fun _ => hcs _),
      scan_leadingZero line' hl (ha.append fun _ => hds _)]
    rfl
  | stray c before hc =>
    intro line line'
    rw [List.cons_append, List.cons_append, scanRelabeled, scanRelabeled, scan_stray line hc,
      scan_stray line' hc]
    rfl

/-- A text has the same tokens wherever it stands, up to lines. -/
theorem refl (cs : List Char) : Alike cs cs := by
  have h := append_left ends_nil ends_nil nil cs
  rwa [List.append_nil] at h

end Alike

/-! ## Edited texts -/

/-- Blank space can be put in the place of other blank space between texts that it does not
keep apart. -/
theorem alike_of_detached {before gap gap' after : List Char} (hgap : Blank gap)
    (hgap' : Blank gap') (h : gap = [] → Detached after) (h' : gap' = [] → Detached after) :
    Alike (before ++ gap ++ after) (before ++ gap' ++ after) := by
  rw [List.append_assoc, List.append_assoc]
  refine Alike.append_left (fun t => ?_) (fun t => ?_) (Alike.gap hgap hgap' (.refl after)) before
  · exact (hgap.detached t).append fun hnil => h hnil t
  · exact (hgap'.detached t).append fun hnil => h' hnil t

theorem alike_of_loose {before gap gap' after : List Char} (hgap : Blank gap)
    (hgap' : Blank gap') (h : Loose before after) :
    Alike (before ++ gap ++ after) (before ++ gap' ++ after) := by
  cases h with
  | start => exact Alike.gap hgap hgap' (.refl after)
  | finish => exact alike_of_detached hgap hgap' (fun _ => ends_nil) fun _ => ends_nil
  | @afterSign before after c hsign =>
    obtain ⟨t, ht⟩ := exists_ofSign? hsign
    have hends := ends_of_ofSign? ht
    have hbehind : Alike (c :: (gap ++ after)) (c :: (gap' ++ after)) :=
      Alike.lexeme (lexeme_of_ofSign? ht) (hends _) (hends _) (Alike.gap hgap hgap' (.refl after))
    simpa using Alike.append_left (detached_of_mem_signs hsign _) (detached_of_mem_signs hsign _)
      hbehind before
  | beforeSign hsign =>
    have hdetached := detached_of_mem_signs hsign
    exact alike_of_detached hgap hgap' (fun _ => hdetached _) fun _ => hdetached _

theorem alike_of_respaced {cs ds : List Char} (h : Respaced cs ds) : Alike cs ds := by
  cases h with
  | replace hgap hgap' hne hne' =>
    exact alike_of_detached hgap hgap' (fun hnil => absurd hnil hne) fun hnil => absurd hnil hne'
  | loose hgap hgap' hloose => exact alike_of_loose hgap hgap' hloose

theorem alike_of_reflTransGen {cs ds : List Char} (h : Relation.ReflTransGen Respaced cs ds) :
    Alike cs ds := by
  induction h with
  | refl => exact .refl cs
  | tail _ hstep ih => exact ih.trans (alike_of_respaced hstep)

/-- Edits of blank space, any number of them, do not change what is printed for a text. They
leave its report as it is, or its error, which can only move to another line. -/
theorem evaluate_respaced (s s' : String)
    (h : Relation.ReflTransGen Respaced s.toList s'.toList) :
    interpret s' = interpret s ∧
      ((∃ r, evaluate s = .ok r ∧ evaluate s' = .ok r) ∨
        ∃ e e', evaluate s = .error e ∧ evaluate s' = .error e' ∧ e.cause = e'.cause) := by
  obtain ⟨hline, hcases⟩ := evaluate_cases_of_scanRelabeled_eq
    (Relabeling.keepsKeys_ofLines fun _ => 0) (alike_of_reflTransGen h 1 1)
  refine ⟨hline.symm, hcases.imp_right ?_⟩
  rintro ⟨e, e', hs, hs', he⟩
  have hlines := (e.mapLine_eq fun _ => 0).symm.trans (he.trans (e'.mapLine_eq fun _ => 0))
  exact ⟨e, e', hs, hs', (Error.mk.inj hlines).2⟩

/-- A line feed put before a program, a tab in the place of a space, no space behind a sign, and an
em space before one. -/
theorem evaluate_respaced_spread :
    Relation.ReflTransGen Respaced "x = 1;".toList "\nx\t=1\u2003;".toList ∧
      evaluate "x = 1;" = .ok ⟨[("x", 1)]⟩ ∧
      evaluate "\nx\t=1\u2003;" = .ok ⟨[("x", 1)]⟩ ∧
      interpret "\nx\t=1\u2003;" = interpret "x = 1;" := by
  have htext : "x = 1;".toList = ['x', ' ', '=', ' ', '1', ';'] := by decide +kernel
  have htext' : "\nx\t=1\u2003;".toList = ['\n', 'x', '\t', '=', '1', '\u2003', ';'] := by
    decide +kernel
  have hedits : Relation.ReflTransGen Respaced "x = 1;".toList "\nx\t=1\u2003;".toList := by
    rw [htext, htext']
    refine .head (@Respaced.loose [] [] ['\n'] _ (by decide) (by decide) .start) ?_
    refine .head (@Respaced.replace ['\n', 'x'] [' '] ['\t'] ['=', ' ', '1', ';'] (by decide)
      (by decide) (by decide) (by decide)) ?_
    refine .head (@Respaced.loose ['\n', 'x', '\t', '='] [' '] [] ['1', ';'] (by decide) (by decide)
      (@Loose.afterSign ['\n', 'x', '\t'] _ _ (by decide))) ?_
    exact .single (@Respaced.loose ['\n', 'x', '\t', '=', '1'] [] ['\u2003'] [';'] (by decide)
      (by decide) (.beforeSign (by decide)))
  have hs : evaluate "x = 1;" = .ok ⟨[("x", 1)]⟩ :=
    (evaluate_programText (p := [⟨"x", .number 1 1, 1⟩]) (by decide)).trans (by decide +kernel)
  obtain ⟨hline, ⟨r, hr, hs'⟩ | ⟨e, -, he, -⟩⟩ := evaluate_respaced _ _ hedits
  · rw [hs] at hr
    cases hr
    exact ⟨hedits, hs, hs', hline⟩
  · rw [hs] at he
    cases he

end Reckoner
