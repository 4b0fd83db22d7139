import Reckoner.Proofs.Culprits

/-!
# Upper and lower case

Letters stand in names only, so a text in lower case has the tokens of the text with every name
spelled as its key, and a text without tokens keeps its error (`scan_toLower`). The stages behind
the scanner look at names by their keys. So two texts that differ in upper and lower case only
give the same report, or the same error up to the spelling of an unknown variable
(`evaluate_letterCase`).
-/

namespace Reckoner

/-- The relabeling that spells every name as its key. -/
def Relabeling.keys : Relabeling :=
  ⟨id, key⟩

theorem Relabeling.keepsKeys_keys : keys.KeepsKeys :=
  key_key

/-! ## Lexemes in lower case -/

theorem toLower_of_not_startsName {c : Char} (h : startsName c = false) : c.toLower = c := by
  rw [← Bool.not_eq_true, startsName_iff] at h
  rw [← Char.toNat_inj, toNat_toLower, if_neg (by omega)]

theorem toLower_of_not_continuesName {c : Char} (h : continuesName c = false) : c.toLower = c :=
  toLower_of_not_startsName (startsName_of_not_continuesName h).1

theorem map_toLower_of_isDigit {cs : List Char} (h : ∀ c ∈ cs, c.isDigit) :
    cs.map Char.toLower = cs := by
  refine (List.map_congr_left fun c hc => ?_).trans (List.map_id cs)
  exact toLower_of_not_startsName (startsName_of_isDigit (h c hc))

theorem prolongs_toLower {t : Token} {c : Char} (h : t.prolongs c = false) :
    (t.relabel .keys).prolongs c.toLower = false := by
  cases t with
  | ident name =>
    rw [Token.relabel, Token.prolongs, toLower_of_not_continuesName h]
    exact h
  | integer v =>
    change c.toLower.isDigit = false
    change c.isDigit = false at h
    rw [← Bool.not_eq_true, isDigit_iff] at h ⊢
    rw [toNat_toLower]
    split <;> omega
  | _ => rfl

theorem Ends.toLower {t : Token} {after : List Char} (h : Ends t after) :
    Ends (t.relabel .keys) (after.map Char.toLower) := by
  cases after with
  | nil => exact ends_nil _
  | cons c after => exact ends_cons_iff.2 (prolongs_toLower (ends_cons_iff.1 h))

theorem Lexeme.toLower {l : List Char} {t : Token} (h : Lexeme l t) :
    Lexeme (l.map Char.toLower) (t.relabel .keys) := by
  cases h with
  | name hc hs =>
    have hkey := key_of_isName (Lexeme.isName (.name hc hs))
    rw [String.toList_ofList] at hkey
    change Lexeme _ (.ident (key _))
    rw [hkey]
    refine .name (startsName_toLower hc) fun c hmem => ?_
    obtain ⟨d, hd, rfl⟩ := List.mem_map.1 hmem
    exact continuesName_toLower (hs d hd)
  | numeral hc h0 hs =>
    rw [map_toLower_of_isDigit (List.forall_mem_cons.2 ⟨hc, hs⟩)]
    exact .numeral hc h0 hs
  | _ => constructor

/-- A text in lower case has the tokens of the text with the names as keys. -/
theorem scan_toLower (line : Nat) (cs : List Char) :
    scan line (cs.map Char.toLower) = scanRelabeled .keys line cs := by
  induction cs using text_induction generalizing line with
  | nil =>
    rw [scanRelabeled, List.map_nil, scan_nil]
    rfl
  | blank c cs hc ih =>
    rw [List.map_cons, toLower_of_not_continuesName (continuesName_of_isBlank hc),
      scan_blank line hc, ih, scanRelabeled, scanRelabeled, scan_blank line hc]
  | lexeme l t after hl ha ih =>
    rw [List.map_append, scan_lexeme line hl.toLower ha.toLower, ih,
      scanRelabeled_lexeme _ line hl ha]
    rfl
  | leadingZero l after hl ha =>
    have hdigits : l.map Char.toLower = l := by
      obtain ⟨hs⟩ := hl
      exact map_toLower_of_isDigit (List.forall_mem_cons.2 ⟨by decide, hs⟩)
    rw [List.map_append, hdigits, scan_leadingZero line hl ha.toLower, scanRelabeled,
      scan_leadingZero line hl ha]
    rfl
  | stray c cs hc =>
    rw [List.map_cons, toLower_of_not_continuesName hc.notName, scan_stray line hc, scanRelabeled,
      scan_stray line hc]
    rfl

/-! ## Errors -/

/-- Causes that are relabeled to the same one are the same, apart from unknown variables. -/
theorem Cause.cases_of_relabel_eq {ρ : Relabeling} {a b : Cause} (h : a.relabel ρ = b.relabel ρ) :
    a = b ∨ ∃ n n', a = .unknownVariable n ∧ b = .unknownVariable n' ∧ ρ.name n = ρ.name n' := by
  cases a <;> cases b <;> simp_all [Cause.relabel]

theorem isName_of_unknownVariable {source : String} {e : Error} {name : String}
    (h : evaluate source = .error e) (hcause : e.cause = .unknownVariable name) : isName name := by
  have hculprit := culprit_of_evaluate h
  rw [hcause] at hculprit
  obtain ⟨l, hl⟩ := HasToken.exists_lexeme hculprit
  exact hl.isName

theorem map_toLower_of_key_eq {a b : String} (ha : isName a) (hb : isName b) (h : key a = key b) :
    a.toList.map Char.toLower = b.toList.map Char.toLower := by
  rw [key_of_isName ha, key_of_isName hb] at h
  exact String.ofList_injective h

/-- Texts that become equal in lower case print the same line. They give the same report, or they
fail on the same line for the same cause, and only an unknown variable can be spelled in letters
of the other case. -/
theorem evaluate_letterCase (s s' : String)
    (h : s.toList.map Char.toLower = s'.toList.map Char.toLower) :
    interpret s = interpret s' ∧
      ((∃ r, evaluate s = .ok r ∧ evaluate s' = .ok r) ∨
        ∃ e e', evaluate s = .error e ∧ evaluate s' = .error e' ∧ e.line = e'.line ∧
          (e.cause = e'.cause ∨ ∃ name name', e.cause = .unknownVariable name ∧
            e'.cause = .unknownVariable name' ∧
            name.toList.map Char.toLower = name'.toList.map Char.toLower)) := by
  have hscan : scanRelabeled .keys 1 s.toList = scanRelabeled .keys 1 s'.toList := by
    rw [← scan_toLower, ← scan_toLower, h]
  obtain ⟨hprinted, hcases⟩ := evaluate_cases_of_scanRelabeled_eq Relabeling.keepsKeys_keys hscan
  refine ⟨hprinted, hcases.imp_right ?_⟩
  rintro ⟨e, e', he, he', herror⟩
  obtain ⟨hline, hcause⟩ := Error.mk.inj herror
  refine ⟨e, e', he, he', hline, (Cause.cases_of_relabel_eq hcause).imp_right ?_⟩
  rintro ⟨name, name', hname, hname', hkey⟩
  have hisName := isName_of_unknownVariable he hname
  have hisName' := isName_of_unknownVariable he' hname'
  exact ⟨name, name', hname, hname', map_toLower_of_key_eq hisName hisName' hkey⟩

/-- A variable that is assigned, read and assigned again in different letters, and a variable that
is unknown in both spellings. -/
theorem evaluate_letterCase_mixed :
    evaluate "Ab = 1; aB = (AB + 1);" = .ok ⟨[("ab", 2)]⟩ ∧
      evaluate "ab = 1; AB = (ab + 1);" = .ok ⟨[("ab", 2)]⟩ ∧
      evaluate "x = Yz;" = .error ⟨1, .unknownVariable "Yz"⟩ ∧
      ∃ name, evaluate "X = yZ;" = .error ⟨1, .unknownVariable name⟩ ∧
        "Yz".toList.map Char.toLower = name.toList.map Char.toLower := by
  have hmixed := evaluate_programText (p := [⟨"Ab", .number 1 1, 1⟩,
    ⟨"aB", .binary (.var "AB" 1) .add (.number 1 1) 1, 1⟩]) (by decide)
  have hunknown := evaluate_programText (p := [⟨"x", .var "Yz" 1, 1⟩]) (by decide)
  have hs : evaluate "Ab = 1; aB = (AB + 1);" = .ok ⟨[("ab", 2)]⟩ :=
    hmixed.trans (by decide +kernel)
  have hu : evaluate "x = Yz;" = .error ⟨1, .unknownVariable "Yz"⟩ :=
    hunknown.trans (by decide +kernel)
  refine ⟨hs, ?_, hu, ?_⟩
  · obtain ⟨-, ⟨r, hr, hs'⟩ | ⟨e, -, he, -⟩⟩ := evaluate_letterCase
      "Ab = 1; aB = (AB + 1);" "ab = 1; AB = (ab + 1);" (by decide +kernel)
    · rw [hs] at hr
      cases hr
      exact hs'
    · rw [hs] at he
      cases he
  · obtain ⟨-, ⟨r, hr, -⟩ | ⟨e, e', he, he', hline, hcause⟩⟩ := evaluate_letterCase
      "x = Yz;" "X = yZ;" (by decide +kernel)
    · rw [hu] at hr
      cases hr
    · rw [hu] at he
      cases he
      obtain ⟨line, cause⟩ := e'
      subst hline
      rcases hcause with rfl | ⟨name, name', hname, rfl, hletters⟩
      · exact ⟨_, he', rfl⟩
      · cases hname
        exact ⟨name', he', hletters⟩

end Reckoner
