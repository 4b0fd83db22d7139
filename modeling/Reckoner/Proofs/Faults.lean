import Reckoner.Proofs.Layout

/-!
# Where a text cannot be cut into tokens

Scanning stops at the first fault of a text, a stray character or a literal with a leading zero
(`Fault`). The text before the fault can be scanned, and the fault alone decides what the error
is (`scan_eq_error_iff`). From a split of the text to the scanner, the text before the fault is
scanned as it is alone, because nothing at its end runs together with the fault (`Joint`,
`scan_append_of_error`). In the other direction the split is found along the text : the scanner
gets to a digit behind a name or a numeral only if the digit does not start a literal of its
own, so the part before a literal ends in a sign or in blank space (`exists_fault_of_scan`).

A fault stays one whatever is written behind it (`Fault.exists_extended`), so whatever a
scanned text starts with can be scanned as well (`scan_of_prefix`).
-/

namespace Reckoner

/-! ## Faults -/

/-- The part `l` of a text, between `before` and `after`, starts no token, for the given cause. -/
inductive Fault (before : List Char) : List Char → List Char → Cause → Prop where
  | stray {c : Char} {after : List Char} (stray : Stray c) :
    Fault before [c] after (.unexpectedCharacter c)
  /-- The digits are all those that stand here, and belong to no lexeme before them. -/
  | leadingZero {digits after : List Char} (zero : LeadingZero digits)
      (start : ∀ c ∈ before.getLast?, continuesName c = false)
      (stop : ∀ c ∈ after.head?, c.isDigit = false) :
    Fault before digits after (.leadingZero (String.ofList digits))

theorem LeadingZero.exists_cons {l : List Char} (h : LeadingZero l) : ∃ cs, l = '0' :: cs := by
  obtain ⟨-⟩ := h
  exact ⟨_, rfl⟩

/-- More digits behind a literal with a leading zero. -/
theorem LeadingZero.append {l ds : List Char} (h : LeadingZero l) (hds : ∀ c ∈ ds, c.isDigit) :
    LeadingZero (l ++ ds) := by
  obtain ⟨hdigits⟩ := h
  exact .intro (List.forall_mem_append.2 ⟨hdigits, hds⟩)

namespace Fault

variable {before l after : List Char} {cause : Cause}

/-- More text before a fault. It must not end in a name or a numeral right before digits. -/
theorem append_left (h : Fault before l after cause) {front : List Char}
    (hfront : before = [] → LeadingZero l → ∀ c ∈ front.getLast?, continuesName c = false) :
    Fault (front ++ before) l after cause := by
  cases h with
  | stray hc => exact .stray hc
  | leadingZero hzero hstart hstop =>
    refine .leadingZero hzero (fun c hc => ?_) hstop
    cases before with
    | nil => exact hfront rfl hzero c (by simpa using hc)
    | cons b before => exact hstart c (by simpa [List.getLast?_append] using hc)

/-- With other text behind it a fault is still one, of more digits if the text starts with some. -/
theorem exists_extended (h : Fault before l after cause) (rest : List Char) :
    ∃ l' after' cause', l ++ rest = l' ++ after' ∧ Fault before l' after' cause' := by
  cases h with
  | stray hc => exact ⟨_, rest, _, rfl, .stray hc⟩
  | leadingZero hzero hstart hstop =>
    have hdigits : ∀ c ∈ rest.takeWhile Char.isDigit, c.isDigit := fun _ => List.mem_takeWhile_imp
    refine ⟨_, rest.dropWhile Char.isDigit, _, ?_,
      .leadingZero (hzero.append hdigits) hstart (ends_dropWhile (.integer 0) rest)⟩
    rw [List.append_assoc, List.takeWhile_append_dropWhile]

/-- What stands behind a fault can be replaced by anything that is no further digit of it. -/
theorem replace_after (h : Fault before l after cause) {after' : List Char}
    (ha : (∃ digits, cause = .leadingZero digits) → ∀ c ∈ after'.head?, c.isDigit = false) :
    Fault before l after' cause := by
  cases h with
  | stray hc => exact .stray hc
  | leadingZero hzero hstart _ => exact .leadingZero hzero hstart (ha ⟨_, rfl⟩)

theorem unexpectedCharacter_iff {c : Char} :
    Fault before l after (.unexpectedCharacter c) ↔ l = [c] ∧ Stray c := by
  constructor
  · rintro ⟨hc⟩
    exact ⟨rfl, hc⟩
  · rintro ⟨rfl, hc⟩
    exact .stray hc

theorem leadingZero_iff {digits : String} :
    Fault before l after (.leadingZero digits) ↔ l = digits.toList ∧
      (∀ c ∈ before.getLast?, continuesName c = false) ∧ LeadingZero digits.toList ∧
      ∀ c ∈ after.head?, c.isDigit = false := by
  constructor
  · intro h
    cases h with
    | leadingZero hzero hstart hstop =>
      rw [String.toList_ofList]
      exact ⟨rfl, hstart, hzero, hstop⟩
  · rintro ⟨rfl, hstart, hzero, hstop⟩
    have := Fault.leadingZero hzero hstart hstop
    rwa [String.ofList_toList] at this

/-- The scanner stops at a fault. -/
theorem scan (h : Fault before l after cause) (line : Nat) :
    Reckoner.scan line (l ++ after) = .error ⟨line, cause⟩ := by
  cases h with
  | stray hc => exact scan_stray line hc after
  | leadingZero hzero _ hstop => exact scan_leadingZero line hzero hstop

end Fault

/-! ## Scanning up to a fault -/

/-- No lexeme at the end of the first text is prolonged by the second. -/
def Joint (cs ds : List Char) : Prop :=
  ∀ front l t, cs = front ++ l → Lexeme l t → Ends t ds

theorem Joint.of_append {front cs ds : List Char} (h : Joint (front ++ cs) ds) : Joint cs ds := by
  rintro front' l t rfl
  exact h (front ++ front') l t (List.append_assoc ..).symm

/-- The last character of a lexeme tells whether more can belong to it. -/
theorem Lexeme.continuesName_getLast? {l : List Char} {t : Token} (h : Lexeme l t) :
    ∀ c ∈ l.getLast?, continuesName c = t.prolongs '0' := by
  intro c hc
  have hmem := List.mem_of_getLast? hc
  cases h with
  | @name a as hhead htail =>
    have hname : ∀ d ∈ a :: as, continuesName d :=
      List.forall_mem_cons.2 ⟨(continuesName_iff a).2 (.inl hhead), htail⟩
    rw [hname c hmem]
    rfl
  | @numeral a as hhead _ htail =>
    have hdigit : ∀ d ∈ a :: as, d.isDigit := List.forall_mem_cons.2 ⟨hhead, htail⟩
    rw [(continuesName_iff c).2 (.inr (hdigit c hmem))]
    rfl
  | _ =>
    obtain rfl := List.mem_singleton.1 hmem
    rfl

/-- A token that a zero does not prolong is prolonged by nothing. -/
theorem Token.prolongs_of_zero {t : Token} (h : t.prolongs '0' = false) (c : Char) :
    t.prolongs c = false := by
  cases t with
  | ident name => cases h
  | integer v => cases h
  | _ => rfl

/-- Behind a text that ends in no name and no numeral anything can stand. -/
theorem joint_of_getLast? {cs : List Char} (h : ∀ c ∈ cs.getLast?, continuesName c = false)
    (ds : List Char) : Joint cs ds := by
  rintro front l t rfl hl d -
  refine Token.prolongs_of_zero ?_ d
  obtain ⟨a, as, rfl⟩ := hl.exists_cons
  have hlast := List.getLast?_eq_some_getLast (l := a :: as) (by simp)
  rw [← hl.continuesName_getLast? _ hlast]
  exact h _ (by simp [List.getLast?_append, hlast])

theorem Fault.joint {before l after : List Char} {cause : Cause}
    (h : Fault before l after cause) : Joint before (l ++ after) := by
  cases h with
  | stray hc => exact fun _ _ t _ _ => ends_of_not_continuesName t hc.notName _
  | leadingZero _ hstart _ => exact joint_of_getLast? hstart _

/-- Behind a text that can be scanned and does not run together with what follows, the scanner
fails as it does on what follows alone. -/
theorem scan_append_of_error {line : Nat} {cs ds : List Char} {ts : List Located} {e : Error}
    (h : scan line cs = .ok ts) (hjoint : Joint cs ds)
    (he : scan (line + lineFeeds cs) ds = .error e) : scan line (cs ++ ds) = .error e := by
  induction cs using text_induction generalizing line ts with
  | nil => exact he
  | blank c cs hc ih =>
    have hgap : ∀ d ∈ [c], Text.isBlank d := by simpa using hc
    rw [← List.singleton_append, scan_gap _ hgap] at h
    rw [← List.singleton_append, lineFeeds_append, ← Nat.add_assoc] at he
    rw [← List.singleton_append, List.append_assoc, scan_gap _ hgap]
    exact ih h (@Joint.of_append [c] _ _ hjoint) he
  | lexeme l t after hl ha ih =>
    obtain ⟨us, hus, rfl⟩ := (scan_lexeme_eq_ok_iff _ hl ha).1 h
    -- Only the last lexeme can touch what follows.
    have hends : Ends t (after ++ ds) := ha.append fun hnil =>
      hjoint [] l t (by simp [hnil]) hl
    rw [lineFeeds_append, hl.lineFeeds_eq_zero, Nat.zero_add] at he
    rw [List.append_assoc, scan_lexeme _ hl hends, ih hus hjoint.of_append he]
    rfl
  | leadingZero l after hl ha => simp [scan_leadingZero _ hl ha] at h
  | stray c cs hc => simp [scan_stray _ hc] at h

theorem Ends.of_append {t : Token} {cs ds : List Char} (h : Ends t (cs ++ ds)) : Ends t cs := by
  cases cs with
  | nil => exact ends_nil t
  | cons c cs => exact h

/-- Where the scanner fails, it has scanned the text before a fault. -/
theorem exists_fault_of_scan {line : Nat} {cs : List Char} {e : Error}
    (h : scan line cs = .error e) : ∃ before l after ts, cs = before ++ l ++ after ∧
      scan line before = .ok ts ∧ Fault before l after e.cause ∧
      e.line = line + lineFeeds before := by
  induction cs using text_induction generalizing line with
  | nil => simp [scan_nil] at h
  | blank c cs hc ih =>
    have hgap : ∀ d ∈ [c], Text.isBlank d := by simpa using hc
    rw [← List.singleton_append, scan_gap _ hgap] at h
    obtain ⟨before, l, after, ts, rfl, hts, hfault, hline⟩ := ih h
    refine ⟨[c] ++ before, l, after, ts, by simp, ?_, hfault.append_left fun _ _ => ?_, ?_⟩
    · rw [scan_gap _ hgap, hts]
    · simpa using continuesName_of_isBlank hc
    · rw [hline, lineFeeds_append, Nat.add_assoc]
  | lexeme l t after hl ha ih =>
    have hafter : scan line after = .error e := by
      rw [scan_lexeme _ hl ha] at h
      cases hs : scan line after with
      | ok ts => simp [hs, Except.map] at h
      | error e' => simpa [hs, Except.map] using h
    obtain ⟨before, l', after', ts, rfl, hts, hfault, hline⟩ := ih hafter
    refine ⟨l ++ before, l', after', ⟨t, line⟩ :: ts, by simp, ?_, hfault.append_left ?_, ?_⟩
    · rw [List.append_assoc] at ha
      exact (scan_lexeme_eq_ok_iff _ hl ha.of_append).2 ⟨ts, hts, rfl⟩
    -- Digits right behind the lexeme start with a zero, and a name or a numeral goes on with it.
    · rintro rfl hzero
      obtain ⟨ds, rfl⟩ := hzero.exists_cons
      intro c hc
      rw [hl.continuesName_getLast? c hc]
      exact ends_cons_iff.1 ha
    · rw [hline, lineFeeds_append, hl.lineFeeds_eq_zero, Nat.zero_add]
  | leadingZero l after hl ha =>
    rw [scan_leadingZero _ hl ha] at h
    cases h
    exact ⟨[], l, after, _, rfl, scan_nil line, .leadingZero hl (by simp) ha, rfl⟩
  | stray c cs hc =>
    rw [scan_stray _ hc] at h
    cases h
    exact ⟨[], [c], cs, _, rfl, scan_nil line, .stray hc, rfl⟩

/-- The scanner fails exactly at a fault behind a text that can be scanned. -/
theorem scan_eq_error_iff {line : Nat} {cs : List Char} {e : Error} :
    scan line cs = .error e ↔ ∃ before l after ts, cs = before ++ l ++ after ∧
      scan line before = .ok ts ∧ Fault before l after e.cause ∧
      e.line = line + lineFeeds before := by
  constructor
  · exact exists_fault_of_scan
  · rintro ⟨before, l, after, ts, rfl, hts, hfault, hline⟩
    obtain ⟨n, cause⟩ := e
    obtain rfl : n = line + lineFeeds before := hline
    rw [List.append_assoc]
    exact scan_append_of_error hts hfault.joint (hfault.scan _)

/-- Whatever a scanned text starts with can be scanned. -/
theorem scan_of_prefix {line : Nat} {cs ds : List Char} {ts : List Located}
    (h : scan line cs = .ok ts) (hds : ds <+: cs) : ∃ us, scan line ds = .ok us := by
  cases hscan : scan line ds with
  | ok us => exact ⟨us, rfl⟩
  | error e =>
    obtain ⟨rest, rfl⟩ := hds
    obtain ⟨before, l, after, us, rfl, hus, hfault, -⟩ := scan_eq_error_iff.1 hscan
    obtain ⟨l', after', cause', hsplit, hfault'⟩ := hfault.exists_extended (after ++ rest)
    have hfails : scan line (before ++ l ++ after ++ rest) =
        .error ⟨line + lineFeeds before, cause'⟩ := by
      refine scan_eq_error_iff.2 ⟨before, l', after', us, ?_, hus, hfault', rfl⟩
      simp only [List.append_assoc, hsplit]
    cases h.symm.trans hfails

/-! ## The error of a text -/

theorem tokenize_eq_error_iff_fault {source : String} {e : Error} :
    tokenize source = .error e ↔ ∃ before l after : String, source = before ++ l ++ after ∧
      (∃ ts, tokenize before = .ok ts) ∧ Fault before.toList l.toList after.toList e.cause ∧
      e.line = 1 + lineFeeds before.toList := by
  rw [tokenize, scan_eq_error_iff]
  constructor
  · rintro ⟨before, l, after, ts, hsplit, hts, hfault, hline⟩
    refine ⟨.ofList before, .ofList l, .ofList after, ?_, ⟨ts, ?_⟩, ?_, ?_⟩
    · rw [← String.toList_inj]
      simpa using hsplit
    all_goals simpa [tokenize] using ‹_›
  · rintro ⟨before, l, after, rfl, ⟨ts, hts⟩, hfault, hline⟩
    exact ⟨_, _, _, ts, by simp, hts, hfault, hline⟩

/-- Scanning a source text fails with a character exactly if the text is split by a stray
character, and with digits exactly if it is split by a literal that has a leading zero, does not
go on behind it and continues no name and no numeral; in both cases the text before can be
scanned, and its line feeds give the line. So everything up to the fault can be scanned, and what
comes behind it has no influence. -/
theorem tokenize_eq_error_iff (source : String) :
    (∀ c line, tokenize source = .error ⟨line, .unexpectedCharacter c⟩ ↔
      ∃ before after, source = before ++ String.singleton c ++ after ∧
        (∃ ts, tokenize before = .ok ts) ∧ Stray c ∧ line = 1 + lineFeeds before.toList) ∧
    (∀ digits line, tokenize source = .error ⟨line, .leadingZero digits⟩ ↔
      ∃ before after, source = before ++ digits ++ after ∧ (∃ ts, tokenize before = .ok ts) ∧
        (∀ c ∈ before.toList.getLast?, continuesName c = false) ∧ LeadingZero digits.toList ∧
        (∀ c ∈ after.toList.head?, c.isDigit = false) ∧ line = 1 + lineFeeds before.toList) ∧
    ∀ e, tokenize source = .error e → ∃ before l after, source = before ++ l ++ after ∧
      Fault before.toList l.toList after.toList e.cause ∧
      (∀ front, front.toList <+: before.toList → ∃ ts, tokenize front = .ok ts) ∧
      ∀ after', ((∃ digits, e.cause = .leadingZero digits) →
          ∀ c ∈ after'.toList.head?, c.isDigit = false) →
        tokenize (before ++ l ++ after') = .error e := by
  refine ⟨fun c line => ?_, fun digits line => ?_, fun e he => ?_⟩
  · rw [tokenize_eq_error_iff_fault]
    simp only [Fault.unexpectedCharacter_iff]
    constructor
    · rintro ⟨before, l, after, rfl, hbefore, ⟨hl, hc⟩, hline⟩
      obtain rfl : l = String.singleton c := by
        rw [← String.toList_inj, hl, String.toList_singleton]
      exact ⟨before, after, rfl, hbefore, hc, hline⟩
    · rintro ⟨before, after, rfl, hbefore, hc, hline⟩
      exact ⟨before, _, after, rfl, hbefore, ⟨String.toList_singleton c, hc⟩, hline⟩
  · rw [tokenize_eq_error_iff_fault]
    simp only [Fault.leadingZero_iff, String.toList_inj]
    constructor
    · rintro ⟨before, l, after, rfl, hbefore, ⟨rfl, hstart, hzero, hstop⟩, hline⟩
      exact ⟨before, after, rfl, hbefore, hstart, hzero, hstop, hline⟩
    · rintro ⟨before, after, rfl, hbefore, hstart, hzero, hstop, hline⟩
      exact ⟨before, digits, after, rfl, hbefore, ⟨rfl, hstart, hzero, hstop⟩, hline⟩
  · obtain ⟨before, l, after, hsplit, ⟨ts, hts⟩, hfault, hline⟩ := tokenize_eq_error_iff_fault.1 he
    refine ⟨before, l, after, hsplit, hfault, fun front hfront => scan_of_prefix hts hfront, ?_⟩
    intro after' hafter
    exact tokenize_eq_error_iff_fault.2
      ⟨before, l, after', rfl, ⟨ts, hts⟩, hfault.replace_after hafter, hline⟩

/-- Digits with a leading zero that belong to a name, to a numeral and to a name behind a numeral,
and then a literal with a leading zero, behind which a stray character or a semicolon stands. -/
theorem tokenize_eq_error_faulty :
    (∃ ts, tokenize "x00 = 100;\ny = 1a00 +" = .ok ts) ∧
      tokenize "x00 = 100;\ny = 1a00 +00#" = .error ⟨2, .leadingZero "00"⟩ ∧
      ∃ before l after, "x00 = 100;\ny = 1a00 +00#" = before ++ l ++ after ∧
        (∃ ts, tokenize before = .ok ts) ∧
        tokenize (before ++ l ++ ";") = .error ⟨2, .leadingZero "00"⟩ := by
  have hok : tokenize "x00 = 100;\ny = 1a00 +" = .ok [⟨.ident "x00", 1⟩, ⟨.assign, 1⟩,
      ⟨.integer 100, 1⟩, ⟨.semicolon, 1⟩, ⟨.ident "y", 2⟩, ⟨.assign, 2⟩, ⟨.integer 1, 2⟩,
      ⟨.ident "a00", 2⟩, ⟨.plus, 2⟩, ⟨.eof, 2⟩] := by
    decide +kernel
  have hsplit : "x00 = 100;\ny = 1a00 +00#" = "x00 = 100;\ny = 1a00 +" ++ "00" ++ "#" := by
    decide +kernel
  have hdigits : "00".toList = ['0', '0'] := by decide +kernel
  obtain ⟨-, hzero, hfirst⟩ := tokenize_eq_error_iff "x00 = 100;\ny = 1a00 +00#"
  have herror := (hzero "00" 2).2 ⟨_, _, hsplit, ⟨_, hok⟩, by simp [continuesName],
    hdigits ▸ .intro (by simp), by simp, by decide +kernel⟩
  obtain ⟨before, l, after, htext, -, hbefore, hafter⟩ := hfirst _ herror
  exact ⟨⟨_, hok⟩, herror, before, l, after, htext, hbefore before List.prefix_rfl,
    hafter ";" fun _ => by simp⟩

end Reckoner
