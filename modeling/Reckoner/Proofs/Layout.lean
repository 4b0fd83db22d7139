import Reckoner.Proofs.Scanning

/-!
# Tokens and layouts

A text is cut into tokens exactly when it has a proper layout, and the tokens are those of
the layout. From a layout to the scanner, the pieces are read one by one : the gap before a
lexeme moves the line on, and the lexeme ends where the next piece starts because the two
are kept apart (`Layout.scan_textFrom`). In the other direction the layout is built along
the text, a blank character going to the gap of the first piece (`Layout.exists_of_scan`).
-/

namespace Reckoner

theorem lineFeeds_append (cs ds : List Char) :
    lineFeeds (cs ++ ds) = lineFeeds cs + lineFeeds ds :=
  List.count_append

theorem Lexeme.lineFeeds_append {l : List Char} {t : Token} (h : Lexeme l t) (before : List Char) :
    lineFeeds (before ++ l) = lineFeeds before := by
  rw [Reckoner.lineFeeds_append, h.lineFeeds_eq_zero, Nat.add_zero]

namespace Layout

/-- The first piece, if there is one, is kept apart from a lexeme of `t` before it. -/
def ApartFrom (t : Token) (pieces : List Piece) : Prop :=
  ∀ piece ∈ pieces.head?, Touching t piece.token → piece.gap ≠ []

theorem apart_cons_iff {piece : Piece} {pieces : List Piece} :
    Apart (piece :: pieces) ↔ ApartFrom piece.token pieces ∧ Apart pieces := by
  cases pieces <;> simp [Apart, ApartFrom]

theorem proper_nil_iff {rest : List Char} :
    Proper ⟨[], rest⟩ ↔ ∀ c ∈ rest, Text.isBlank c := by
  constructor
  · exact fun h => h.rest
  · exact fun h => ⟨by simp, by simp, h, trivial⟩

theorem proper_cons_iff {piece : Piece} {pieces : List Piece} {rest : List Char} :
    Proper ⟨piece :: pieces, rest⟩ ↔ Lexeme piece.lexeme piece.token ∧
      (∀ c ∈ piece.gap, Text.isBlank c) ∧ ApartFrom piece.token pieces ∧
      Proper ⟨pieces, rest⟩ := by
  constructor
  · rintro ⟨hl, hg, hr, ha⟩
    rw [apart_cons_iff] at ha
    exact ⟨hl _ (by simp), hg _ (by simp), ha.1, fun p hp => hl p (by simp [hp]),
      fun p hp => hg p (by simp [hp]), hr, ha.2⟩
  · rintro ⟨hl, hg, ha, hp⟩
    refine ⟨?_, ?_, hp.rest, apart_cons_iff.2 ⟨ha, hp.apart⟩⟩
    · exact List.forall_mem_cons.2 ⟨hl, hp.lexemes⟩
    · exact List.forall_mem_cons.2 ⟨hg, hp.gaps⟩

/-- A lexeme ends before the text of a layout exactly when its first piece is kept apart. -/
theorem ends_textFrom_iff (t : Token) {pieces : List Piece} {rest : List Char}
    (h : Proper ⟨pieces, rest⟩) : Ends t (textFrom rest pieces) ↔ ApartFrom t pieces := by
  cases pieces with
  | nil =>
    refine iff_of_true ?_ (by simp [ApartFrom])
    cases rest with
    | nil => exact ends_nil t
    | cons c rest => exact ends_of_isBlank t (proper_nil_iff.1 h c (by simp)) rest
  | cons piece pieces =>
    obtain ⟨hl, hg, -, -⟩ := proper_cons_iff.1 h
    obtain ⟨gap, lexeme, token⟩ := piece
    cases gap with
    | nil =>
      obtain ⟨c, cs, rfl⟩ := hl.exists_cons
      simp only [textFrom, List.nil_append, List.cons_append, ends_cons_iff, ApartFrom,
        List.head?_cons, Option.mem_some_iff, forall_eq', ne_eq, not_true, imp_false,
        ← prolongs_iff_touching t hl, Bool.not_eq_true]
    | cons c gap =>
      refine iff_of_true (ends_of_isBlank t (hg c (by simp)) _) ?_
      simp [ApartFrom]

/-- The scanner reads the tokens off a proper layout. -/
theorem scan_textFrom {pieces : List Piece} {rest : List Char} (h : Proper ⟨pieces, rest⟩)
    (before : List Char) :
    scan (1 + lineFeeds before) (textFrom rest pieces) = .ok (tokensFrom rest before pieces) := by
  induction pieces generalizing before with
  | nil =>
    have := scan_gap (1 + lineFeeds before) (proper_nil_iff.1 h) []
    rwa [List.append_nil, scan_nil, Nat.add_assoc, ← lineFeeds_append] at this
  | cons piece pieces ih =>
    obtain ⟨hl, hg, ha, hp⟩ := proper_cons_iff.1 h
    rw [textFrom, List.append_assoc, scan_gap _ hg, Nat.add_assoc, ← lineFeeds_append,
      scan_lexeme _ hl ((ends_textFrom_iff _ hp).2 ha)]
    have hafter := ih hp (before ++ piece.gap ++ piece.lexeme)
    rw [hl.lineFeeds_append] at hafter
    rw [hafter]
    rfl

/-- A layout with one more blank character before it. -/
def blank (c : Char) : Layout → Layout
  | ⟨[], rest⟩ => ⟨[], c :: rest⟩
  | ⟨piece :: pieces, rest⟩ => ⟨{ piece with gap := c :: piece.gap } :: pieces, rest⟩

theorem textFrom_blank (c : Char) (layout : Layout) :
    textFrom (layout.blank c).rest (layout.blank c).pieces =
      c :: textFrom layout.rest layout.pieces := by
  obtain ⟨pieces, rest⟩ := layout
  cases pieces <;> simp [blank, textFrom]

theorem tokensFrom_blank (c : Char) (layout : Layout) (before : List Char) :
    tokensFrom (layout.blank c).rest before (layout.blank c).pieces =
      tokensFrom layout.rest (before ++ [c]) layout.pieces := by
  obtain ⟨pieces, rest⟩ := layout
  cases pieces <;> simp [blank, tokensFrom]

theorem Proper.blank {layout : Layout} (h : layout.Proper) {c : Char} (hc : Text.isBlank c) :
    (layout.blank c).Proper := by
  obtain ⟨pieces, rest⟩ := layout
  cases pieces with
  | nil => exact proper_nil_iff.2 (List.forall_mem_cons.2 ⟨hc, proper_nil_iff.1 h⟩)
  | cons piece pieces =>
    obtain ⟨hl, hg, ha, hp⟩ := proper_cons_iff.1 h
    exact proper_cons_iff.2 ⟨hl, List.forall_mem_cons.2 ⟨hc, hg⟩, ha, hp⟩

/-- A text that the scanner accepts has a proper layout with the tokens it gives. -/
theorem exists_of_scan (before : List Char) {cs : List Char} {ts : List Located}
    (h : scan (1 + lineFeeds before) cs = .ok ts) : ∃ layout : Layout, layout.Proper ∧
      textFrom layout.rest layout.pieces = cs ∧
      tokensFrom layout.rest before layout.pieces = ts := by
  induction cs using text_induction generalizing before ts with
  | nil =>
    rw [scan_nil] at h
    refine ⟨⟨[], []⟩, proper_nil_iff.2 (by simp), rfl, ?_⟩
    simpa [tokensFrom] using h
  | blank c cs hc ih =>
    have hgap : ∀ d ∈ [c], Text.isBlank d := by simpa using hc
    rw [← List.singleton_append, scan_gap _ hgap, Nat.add_assoc, ← lineFeeds_append] at h
    obtain ⟨layout, hp, htext, htokens⟩ := ih _ h
    refine ⟨layout.blank c, hp.blank hc, ?_, ?_⟩
    · rw [textFrom_blank, htext]
    · rw [tokensFrom_blank, htokens]
  | lexeme l t after hl ha ih =>
    obtain ⟨us, hus, rfl⟩ := (scan_lexeme_eq_ok_iff _ hl ha).1 h
    rw [← hl.lineFeeds_append] at hus
    obtain ⟨⟨pieces, rest⟩, hp, rfl, rfl⟩ := ih _ hus
    refine ⟨⟨⟨[], l, t⟩ :: pieces, rest⟩, ?_, by simp [textFrom], by simp [tokensFrom]⟩
    exact proper_cons_iff.2 ⟨hl, by simp, (ends_textFrom_iff t hp).1 ha, hp⟩
  | leadingZero l after hl ha => simp [scan_leadingZero _ hl ha] at h
  | stray c cs hc => simp [scan_stray _ hc] at h

end Layout

/-- A source text is cut into `ts` exactly when it has a proper layout with the tokens `ts` :
lexemes and blank space by turns, blank space where two lexemes would run together, every
token on the line that the line feeds before it give, and the end mark last. -/
theorem tokenize_eq_ok_iff (source : String) (ts : List Located) :
    tokenize source = .ok ts ↔
      ∃ layout : Layout, layout.Proper ∧ layout.text = source ∧ layout.tokens = ts := by
  constructor
  · intro h
    obtain ⟨layout, hp, htext, htokens⟩ := Layout.exists_of_scan [] h
    refine ⟨layout, hp, ?_, htokens⟩
    rw [Layout.text, htext, String.ofList_toList]
  · rintro ⟨layout, hp, rfl, rfl⟩
    rw [tokenize, Layout.text, String.toList_ofList]
    exact Layout.scan_textFrom hp []

end Reckoner
