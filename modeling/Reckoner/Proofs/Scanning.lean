import Mathlib.Data.List.TakeWhile
import Reckoner.Token.Layout

/-!
# How the scanner advances

A text is empty, or it starts in one of four ways : with a blank character, with a lexeme
that what follows does not prolong (`Ends`), with a literal that has a leading zero, or with
a stray character. `scan` does one thing in each case (`scan_blank`, `scan_lexeme`,
`scan_leadingZero`, `scan_stray`), and these cases give an induction over texts
(`text_induction`). Statements about the scanner are proved from them and do not look at
its definition.

A token is prolonged by a character that could stand in its lexeme (`Token.prolongs`). Two
lexemes run together exactly when the first character of the second prolongs the first
(`prolongs_iff_touching`).
-/

namespace Reckoner

/-! ## Classes of characters -/

theorem isDigit_iff (c : Char) : c.isDigit ↔ 48 ≤ c.toNat ∧ c.toNat ≤ 57 := by
  simp [Char.isDigit, UInt32.le_iff_toNat_le]

theorem startsName_iff (c : Char) : startsName c ↔
    (65 ≤ c.toNat ∧ c.toNat ≤ 90) ∨ (97 ≤ c.toNat ∧ c.toNat ≤ 122) ∨ c.toNat = 95 := by
  have hupper : c.isUpper = decide (c.val ≥ 65 ∧ c.val ≤ 90) := rfl
  have hlower : c.isLower = (decide (c.val ≥ 97) && decide (c.val ≤ 122)) := rfl
  have halpha : c.isAlpha = (c.isUpper || c.isLower) := rfl
  simp [startsName, halpha, hupper, hlower, UInt32.le_iff_toNat_le, ← Char.toNat_inj, or_assoc]

theorem continuesName_iff (c : Char) : continuesName c ↔ startsName c ∨ c.isDigit := by
  simp only [startsName, continuesName, Char.isAlphanum, Bool.or_eq_true]
  grind

theorem startsName_of_isDigit {c : Char} (h : c.isDigit) : startsName c = false := by
  rw [isDigit_iff] at h
  rw [← Bool.not_eq_true, startsName_iff]
  omega

theorem startsName_of_not_continuesName {c : Char} (h : continuesName c = false) :
    startsName c = false ∧ c.isDigit = false := by
  rw [← Bool.not_eq_true, continuesName_iff, not_or] at h
  simpa using h

/-- Blank characters stand in no name. -/
theorem continuesName_of_isBlank {c : Char} (h : Text.isBlank c) : continuesName c = false := by
  simp only [Text.isBlank, Text.within, Text.blankIntervals, List.any_cons, List.any_nil,
    Bool.or_false, Bool.or_eq_true, Bool.and_eq_true, decide_eq_true_eq] at h
  rw [← Bool.not_eq_true, continuesName_iff, startsName_iff, isDigit_iff]
  omega

theorem isBlank_of_continuesName {c : Char} (h : continuesName c) : Text.isBlank c = false := by
  rw [← Bool.not_eq_true]
  intro hb
  simp [continuesName_of_isBlank hb] at h

/-- Signs are not blank and stand in no name. -/
theorem not_blank_of_ofSign? {c : Char} {t : Token} (h : Token.ofSign? c = some t) :
    Text.isBlank c = false ∧ continuesName c = false := by
  unfold Token.ofSign? at h
  split at h
  case h_8 => cases h
  all_goals decide

/-- The character starts nothing : it is not blank, stands in no name and is no sign. -/
structure Stray (c : Char) : Prop where
  notBlank : Text.isBlank c = false
  notName : continuesName c = false
  notSign : Token.ofSign? c = none

/-- The characters are a literal of several digits that starts with zero. -/
inductive LeadingZero : List Char → Prop where
  | intro {d : Char} {ds : List Char} (digits : ∀ c ∈ d :: ds, c.isDigit) :
    LeadingZero ('0' :: d :: ds)

/-! ## Where a lexeme ends -/

/-- Right after a lexeme of the token, the character would belong to it. -/
def Token.prolongs : Token → Char → Bool
  | .ident _, c => continuesName c
  | .integer _, c => c.isDigit
  | _, _ => false

/-- The text after a lexeme of the token does not prolong it. -/
def Ends (t : Token) (after : List Char) : Prop :=
  ∀ c ∈ after.head?, t.prolongs c = false

theorem ends_nil (t : Token) : Ends t [] := by
  simp [Ends]

theorem ends_cons_iff {t : Token} {c : Char} {cs : List Char} :
    Ends t (c :: cs) ↔ t.prolongs c = false := by
  simp [Ends]

theorem ends_dropWhile (t : Token) (cs : List Char) : Ends t (cs.dropWhile t.prolongs) := by
  intro c hc
  have hp := List.head?_dropWhile_not t.prolongs cs
  rw [Option.mem_def.1 hc] at hp
  exact hp

/-- A character that stands in no name prolongs nothing. -/
theorem ends_of_not_continuesName (t : Token) {c : Char} (h : continuesName c = false)
    (cs : List Char) : Ends t (c :: cs) := by
  rw [ends_cons_iff]
  cases t with
  | ident name => exact h
  | integer v => exact (startsName_of_not_continuesName h).2
  | _ => rfl

theorem ends_of_isBlank (t : Token) {c : Char} (h : Text.isBlank c) (cs : List Char) :
    Ends t (c :: cs) :=
  ends_of_not_continuesName t (continuesName_of_isBlank h) cs

theorem Ends.append {t : Token} {after : List Char} (h : Ends t after) {ds : List Char}
    (hds : after = [] → Ends t ds) : Ends t (after ++ ds) := by
  cases after with
  | nil => exact hds rfl
  | cons c after => exact h

theorem takeWhile_append_of_head {p : Char → Bool} {cs after : List Char} (h : ∀ c ∈ cs, p c)
    (ha : ∀ c ∈ after.head?, p c = false) : (cs ++ after).takeWhile p = cs := by
  rw [List.takeWhile_append_of_pos h]
  cases after with
  | nil => simp
  | cons a after => simp [ha a (by simp)]

theorem dropWhile_append_of_head {p : Char → Bool} {cs after : List Char} (h : ∀ c ∈ cs, p c)
    (ha : ∀ c ∈ after.head?, p c = false) : (cs ++ after).dropWhile p = after := by
  rw [List.dropWhile_append_of_pos h]
  cases after with
  | nil => simp
  | cons a after => simp [ha a (by simp)]

theorem lexeme_of_ofSign? {c : Char} {t : Token} (h : Token.ofSign? c = some t) :
    Lexeme [c] t := by
  unfold Token.ofSign? at h
  split at h <;> cases h <;> constructor

theorem ends_of_ofSign? {c : Char} {t : Token} (h : Token.ofSign? c = some t)
    (after : List Char) : Ends t after := by
  intro d _
  unfold Token.ofSign? at h
  split at h <;> cases h <;> rfl

/-- The text is a name. -/
def isName (text : String) : Bool :=
  match text.toList with
  | [] => false
  | c :: cs => startsName c && cs.all continuesName

theorem isName_iff_lexeme {text : String} :
    isName text ↔ Lexeme text.toList (.ident text) := by
  unfold isName
  constructor
  · intro h
    split at h
    · simp at h
    · next c cs hcs =>
      rw [Bool.and_eq_true, List.all_eq_true] at h
      have := Lexeme.name h.1 h.2
      rwa [← hcs, String.ofList_toList] at this
  · intro h
    generalize htext : text.toList = cs at h
    cases h with
    | name hc hs => simpa [hc] using hs

/-- Lexemes are not empty. -/
theorem Lexeme.exists_cons {l : List Char} {t : Token} (h : Lexeme l t) :
    ∃ c cs, l = c :: cs := by
  cases h <;> exact ⟨_, _, rfl⟩

/-- Blank space and the end mark have no lexemes. -/
theorem Lexeme.token_ne {l : List Char} {t : Token} (h : Lexeme l t) : t ≠ .eof ∧ t ≠ .blank := by
  cases h <;> simp

/-- Lexemes run together when the first character of one prolongs the other. -/
theorem prolongs_iff_touching (a : Token) {b : Token} {c : Char} {cs : List Char}
    (h : Lexeme (c :: cs) b) : a.prolongs c = true ↔ Touching a b := by
  cases a with
  | ident name =>
    cases h with
    | name hc _ => simp [Token.prolongs, Touching, (continuesName_iff c).2 (.inl hc)]
    | numeral hc _ _ => simp [Token.prolongs, Touching, (continuesName_iff c).2 (.inr hc)]
    | _ => simp only [Token.prolongs, Touching]; decide
  | integer v =>
    cases h with
    | name hc _ =>
      simp only [Token.prolongs, Touching, iff_false]
      intro hd
      simp [startsName_of_isDigit hd] at hc
    | numeral hc _ _ => simp [Token.prolongs, Touching, hc]
    | _ => simp only [Token.prolongs, Touching]; decide
  | _ => simp [Token.prolongs, Touching]

/-- A lexeme holds no line feed. -/
theorem Lexeme.lineFeeds_eq_zero {l : List Char} {t : Token} (h : Lexeme l t) :
    lineFeeds l = 0 := by
  have hname : continuesName '\n' = false := by decide
  have hdigit : Char.isDigit '\n' = false := by decide
  refine List.count_eq_zero.2 fun hmem => ?_
  cases h with
  | name hc hs =>
    rcases List.mem_cons.1 hmem with rfl | hm
    · simp [(continuesName_iff _).2 (.inl hc)] at hname
    · simp [hs _ hm] at hname
  | numeral hc _ hs =>
    rcases List.mem_cons.1 hmem with rfl | hm
    · simp [hc] at hdigit
    · simp [hs _ hm] at hdigit
  | _ => simp at hmem

/-! ## The steps of the scanner -/

theorem scan_nil (line : Nat) : scan line [] = .ok [⟨.eof, line⟩] := by
  rw [scan]

theorem scan_blank (line : Nat) {c : Char} (h : Text.isBlank c) (cs : List Char) :
    scan line (c :: cs) = scan (lineAfter line c) cs := by
  rw [scan, if_pos h]

theorem scan_sign (line : Nat) {c : Char} {t : Token} (h : Token.ofSign? c = some t)
    (cs : List Char) : scan line (c :: cs) = (scan line cs).map (⟨t, line⟩ :: ·) := by
  obtain ⟨hblank, hname⟩ := not_blank_of_ofSign? h
  obtain ⟨hstart, hdigit⟩ := startsName_of_not_continuesName hname
  rw [scan, hblank, hstart, hdigit, h]
  rfl

/-- A lexeme that ends where the rest of the text starts becomes its token. -/
theorem scan_lexeme (line : Nat) {l after : List Char} {t : Token} (h : Lexeme l t)
    (ha : Ends t after) :
    scan line (l ++ after) = (scan line after).map (⟨t, line⟩ :: ·) := by
  cases h with
  | name hc hs =>
    have hb := isBlank_of_continuesName ((continuesName_iff _).2 (.inl hc))
    rw [List.cons_append, scan, hb, if_neg (by decide), if_pos hc,
      takeWhile_append_of_head hs ha, dropWhile_append_of_head hs ha]
  | zero =>
    have hnil : ∀ d ∈ ([] : List Char), d.isDigit := by simp
    have htake : after.takeWhile Char.isDigit = [] := takeWhile_append_of_head hnil ha
    have hdrop : after.dropWhile Char.isDigit = after := dropWhile_append_of_head hnil ha
    rw [List.singleton_append, scan, htake, hdrop]
    rfl
  | numeral hc h0 hs =>
    have hb := isBlank_of_continuesName ((continuesName_iff _).2 (.inr hc))
    rw [List.cons_append, scan, hb, if_neg (by decide), startsName_of_isDigit hc,
      if_neg (by decide), if_pos hc, if_neg (fun hz => h0 hz.1),
      takeWhile_append_of_head hs ha, dropWhile_append_of_head hs ha]
  | _ => exact scan_sign line rfl after

/-- Scanning past a lexeme succeeds when the rest is scanned. -/
theorem scan_lexeme_eq_ok_iff (line : Nat) {l after : List Char} {t : Token} (h : Lexeme l t)
    (ha : Ends t after) {ts : List Located} :
    scan line (l ++ after) = .ok ts ↔ ∃ us, scan line after = .ok us ∧ ⟨t, line⟩ :: us = ts := by
  rw [scan_lexeme line h ha]
  cases scan line after <;> simp [Except.map]

theorem scan_leadingZero (line : Nat) {l after : List Char} (h : LeadingZero l)
    (ha : Ends (.integer 0) after) :
    scan line (l ++ after) = .error ⟨line, .leadingZero (String.ofList l)⟩ := by
  obtain ⟨hs⟩ := h
  rw [List.cons_append, scan, takeWhile_append_of_head hs ha]
  rfl

theorem scan_stray (line : Nat) {c : Char} (h : Stray c) (cs : List Char) :
    scan line (c :: cs) = .error ⟨line, .unexpectedCharacter c⟩ := by
  obtain ⟨hstart, hdigit⟩ := startsName_of_not_continuesName h.notName
  rw [scan, h.notBlank, hstart, hdigit, h.notSign]
  rfl

/-- Blank space only moves the line on. -/
theorem scan_gap (line : Nat) {gap : List Char} (h : ∀ c ∈ gap, Text.isBlank c)
    (cs : List Char) : scan line (gap ++ cs) = scan (line + lineFeeds gap) cs := by
  induction gap generalizing line with
  | nil => simp [lineFeeds]
  | cons c gap ih =>
    rw [List.cons_append, scan_blank line (h c (by simp)), ih _ fun d hd => h d (by simp [hd])]
    congr 1
    by_cases hc : c = '\n'
    · simp only [lineAfter, lineFeeds, hc, if_pos, List.count_cons_self]
      omega
    · simp [lineAfter, lineFeeds, hc]

/-! ## Texts that scan to a row

A text is scanned in parts, each with what follows it in view, so that a lexeme at the end of
a part cannot be prolonged by the next one. -/

/-- Before `after`, the text `cs` on line `line` scans to the tokens `row`. -/
def Scans (line : Nat) (cs : List Char) (row : List Located) (after : List Char) : Prop :=
  scan line (cs ++ after) = (scan line after).map (row ++ ·)

namespace Scans

variable {line : Nat} {after : List Char}

theorem nil : Scans line [] [] after := by
  unfold Scans
  rw [List.nil_append]
  cases scan line after <;> rfl

theorem append {cs ds : List Char} {row row' : List Located} (h : Scans line cs row (ds ++ after))
    (h' : Scans line ds row' after) : Scans line (cs ++ ds) (row ++ row') after := by
  unfold Scans at *
  rw [List.append_assoc, h, h']
  cases scan line after with
  | ok ts => simp [Except.map]
  | error e => rfl

theorem lexeme {l : List Char} {t : Token} (h : Lexeme l t) (ha : Ends t after) :
    Scans line l [⟨t, line⟩] after :=
  scan_lexeme line h ha

theorem cons_sign {c : Char} {t : Token} {cs : List Char} {row : List Located}
    (h : Token.ofSign? c = some t) (hs : Scans line cs row after) :
    Scans line (c :: cs) (⟨t, line⟩ :: row) after :=
  append (lexeme (lexeme_of_ofSign? h) (ends_of_ofSign? h _)) hs

theorem cons_space {cs : List Char} {row : List Located} (hs : Scans line cs row after) :
    Scans line (' ' :: cs) row after := by
  have hline : lineAfter line ' ' = line := if_neg (by decide)
  unfold Scans at *
  rw [List.cons_append, scan_blank line Text.isBlank_space, hline, hs]

end Scans

/-! ## Induction over texts -/

theorem lexeme_takeWhile_continuesName {c : Char} (h : startsName c) (cs : List Char) :
    Lexeme (c :: cs.takeWhile continuesName)
      (.ident (String.ofList (c :: cs.takeWhile continuesName))) :=
  .name h fun _ hd => List.mem_takeWhile_imp hd

/-- A run of digits that does not start with a needless zero is a numeral. -/
theorem lexeme_takeWhile_isDigit {c : Char} (h : c.isDigit) {cs : List Char}
    (hzero : ¬(c = '0' ∧ c :: cs.takeWhile Char.isDigit ≠ ['0'])) :
    Lexeme (c :: cs.takeWhile Char.isDigit)
      (.integer (Numeral.value (c :: cs.takeWhile Char.isDigit))) := by
  by_cases hc : c = '0'
  · subst hc
    have hnil : cs.takeWhile Char.isDigit = [] := by simpa using hzero
    rw [hnil]
    exact .zero
  · exact .numeral h hc fun _ hd => List.mem_takeWhile_imp hd

theorem leadingZero_takeWhile {cs : List Char} (h : '0' :: cs.takeWhile Char.isDigit ≠ ['0']) :
    LeadingZero ('0' :: cs.takeWhile Char.isDigit) := by
  have hdigits : ∀ d ∈ cs.takeWhile Char.isDigit, d.isDigit := fun _ hd => List.mem_takeWhile_imp hd
  cases htake : cs.takeWhile Char.isDigit with
  | nil => exact absurd (congrArg _ htake) h
  | cons d ds => exact .intro (htake ▸ hdigits)

/-- Every text is empty or starts with a blank character, a lexeme, a literal with a leading
zero or a stray character; in the first two of these cases the induction goes on behind it. -/
theorem text_induction {motive : List Char → Prop} (nil : motive [])
    (blank : ∀ c cs, Text.isBlank c → motive cs → motive (c :: cs))
    (lexeme : ∀ l t after, Lexeme l t → Ends t after → motive after → motive (l ++ after))
    (leadingZero : ∀ l after, LeadingZero l → Ends (.integer 0) after → motive (l ++ after))
    (stray : ∀ c cs, Stray c → motive (c :: cs)) (cs : List Char) : motive cs := by
  have split (p : Char → Bool) (c : Char) (cs : List Char)
      (h : motive (c :: cs.takeWhile p ++ cs.dropWhile p)) : motive (c :: cs) := by
    rwa [List.cons_append, List.takeWhile_append_dropWhile] at h
  -- The scanner's own recursion, whose branches are sorted into the five cases.
  refine scan.induct (motive := fun _ cs => motive cs) (fun _ => nil)
    (fun _ c cs hb ih => blank c cs hb ih) ?_ ?_ ?_ ?_ ?_ 1 cs
  · intro _ c cs _ hc ih
    refine split continuesName c cs ?_
    exact lexeme _ _ _ (lexeme_takeWhile_continuesName hc cs) (ends_dropWhile (.ident _) cs) ih
  · rintro _ c cs _ _ _ digits ⟨rfl, hzero⟩
    refine split Char.isDigit '0' cs ?_
    exact leadingZero _ _ (leadingZero_takeWhile hzero) (ends_dropWhile (.integer 0) cs)
  · intro _ c cs _ _ hc digits hzero ih
    refine split Char.isDigit c cs ?_
    exact lexeme _ _ _ (lexeme_takeWhile_isDigit hc hzero) (ends_dropWhile (.integer _) cs) ih
  · intro _ c cs _ _ _ t ht ih
    exact lexeme [c] t cs (lexeme_of_ofSign? ht) (ends_of_ofSign? ht cs) ih
  · intro _ c cs hb hs hd hn
    refine stray c cs ⟨by simpa using hb, ?_, hn⟩
    rw [← Bool.not_eq_true, continuesName_iff, not_or]
    exact ⟨hs, hd⟩

/-- Scanned tokens hold the end mark at least. -/
theorem ne_nil_of_scan {line : Nat} {cs : List Char} {ts : List Located}
    (h : scan line cs = .ok ts) : ts ≠ [] := by
  induction cs using text_induction generalizing line ts with
  | nil =>
    rw [scan_nil] at h
    cases h
    simp
  | blank c cs hc ih =>
    rw [scan_blank _ hc] at h
    exact ih h
  | lexeme l t after hl ha =>
    obtain ⟨us, -, rfl⟩ := (scan_lexeme_eq_ok_iff _ hl ha).1 h
    simp
  | leadingZero l after hl ha => simp [scan_leadingZero _ hl ha] at h
  | stray c cs hc => simp [scan_stray _ hc] at h

end Reckoner
