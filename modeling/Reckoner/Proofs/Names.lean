import Reckoner.Proofs.Derivation
import Reckoner.Proofs.Scanning
import Reckoner.Store

/-!
# Names and their keys

The characters of a name are ASCII, so the key of a name is the name with its letters in
lower case (`key_of_isName`), and a name again (`isName_key`). A name is its own key exactly when it
is written in lower case (`isLowerName_iff`). The names that a program assigns come from its tokens,
and the tokens from the text, so they are names (`isName_of_parse`).
-/

namespace Reckoner

/-! ## Lower case -/

theorem toNat_toLower (c : Char) : c.toLower.toNat =
    if 65 ≤ c.toNat ∧ c.toNat ≤ 90 then c.toNat + 32 else c.toNat := by
  have h : (c.val ≥ 'A'.val ∧ c.val ≤ 'Z'.val) ↔ 65 ≤ c.toNat ∧ c.toNat ≤ 90 := by
    simp [UInt32.le_iff_toNat_le]
  unfold Char.toLower
  split
  · next hc =>
    have hrange := h.1 hc
    rw [if_pos hrange]
    change (c.val + 32).toNat = c.val.toNat + 32
    rw [UInt32.toNat_add]
    exact Nat.mod_eq_of_lt (by simp; omega)
  · next hc => rw [if_neg (mt h.2 hc)]

theorem startsName_toLower {c : Char} (h : startsName c) : startsName c.toLower := by
  rw [startsName_iff] at h ⊢
  rw [toNat_toLower]
  split <;> omega

theorem continuesName_toLower {c : Char} (h : continuesName c) : continuesName c.toLower := by
  rw [continuesName_iff, startsName_iff, isDigit_iff] at h ⊢
  rw [toNat_toLower]
  split <;> omega

theorem toNat_lt_of_continuesName {c : Char} (h : continuesName c) : c.toNat < 128 := by
  rw [continuesName_iff, startsName_iff, isDigit_iff] at h
  omega

/-- Only the first stretch of upper-case characters is ASCII. -/
theorem le_first_of_mem_tail : ∀ s ∈ Text.upperStretches.tail, 128 ≤ s.first := by
  decide +kernel

theorem lowerChar_of_ascii {c : Char} (hc : c.toNat < 128) : Text.lowerChar c = c.toLower := by
  have hcons : Text.upperStretches = ⟨65, 90, 1, 97⟩ :: Text.upperStretches.tail := rfl
  have htail : Text.upperStretches.tail.find? (·.holds c.toNat) = none := by
    rw [List.find?_eq_none]
    intro s hs hholds
    have := le_first_of_mem_tail s hs
    simp only [Text.Stretch.holds, Bool.and_eq_true, decide_eq_true_eq] at hholds
    omega
  have hlower := toNat_toLower c
  unfold Text.lowerChar
  rw [hcons, List.find?_cons, htail]
  by_cases hu : 65 ≤ c.toNat ∧ c.toNat ≤ 90
  · have hholds : Text.Stretch.holds ⟨65, 90, 1, 97⟩ c.toNat = true := by
      simp [Text.Stretch.holds, hu, Nat.mod_one]
    have himage : Text.Stretch.map ⟨65, 90, 1, 97⟩ c.toNat = c.toLower.toNat := by
      rw [hlower, if_pos hu]
      change 97 + (c.toNat - 65) = c.toNat + 32
      omega
    rw [hholds]
    change Char.ofNat (Text.Stretch.map ⟨65, 90, 1, 97⟩ c.toNat) = c.toLower
    rw [himage, Char.ofNat_toNat]
  · have hholds : Text.Stretch.holds ⟨65, 90, 1, 97⟩ c.toNat = false := by
      simp only [Text.Stretch.holds, Bool.and_eq_false_iff, decide_eq_false_iff_not]
      omega
    rw [if_neg hu] at hlower
    rw [hholds]
    exact Char.toNat_inj.1 hlower.symm

theorem lowerFrom_of_ascii (before : List Char) {cs : List Char} (h : ∀ c ∈ cs, c.toNat < 128) :
    Text.lowerFrom before cs = cs.map Char.toLower := by
  induction cs generalizing before with
  | nil => rfl
  | cons c cs ih =>
    rw [List.forall_mem_cons] at h
    have hi : c ≠ 'İ' := by
      rintro rfl
      simp at h
    have hs : c ≠ 'Σ' := by
      rintro rfl
      simp at h
    rw [Text.lowerFrom, Text.lowerIn, if_neg hi, if_neg hs, lowerChar_of_ascii h.1, ih _ h.2]
    rfl

/-! ## Keys of names -/

theorem continuesName_of_isName {name : String} (h : isName name) :
    ∀ c ∈ name.toList, continuesName c := by
  have hl := isName_iff_lexeme.1 h
  generalize name.toList = cs at hl
  cases hl with
  | name hc hs => exact List.forall_mem_cons.2 ⟨(continuesName_iff _).2 (.inl hc), hs⟩

/-- The key of a name is the name in lower case. -/
theorem key_of_isName {name : String} (h : isName name) :
    key name = String.ofList (name.toList.map Char.toLower) := by
  rw [key, Text.lowercase, lowerFrom_of_ascii _ fun c hc =>
    toNat_lt_of_continuesName (continuesName_of_isName h c hc)]

theorem isName_key {name : String} (h : isName name) : isName (key name) := by
  have hall := continuesName_of_isName h
  rw [key_of_isName h]
  unfold isName at *
  rw [String.toList_ofList]
  cases hcs : name.toList with
  | nil => simp [hcs] at h
  | cons c cs =>
    rw [hcs] at h hall
    rw [Bool.and_eq_true] at h
    simp only [List.map_cons, startsName_toLower h.1, Bool.true_and, List.all_map, List.all_eq_true]
    exact fun d hd => continuesName_toLower (hall d (by simp [hd]))

/-! ## Names that are their keys -/

/-- The text is a name without upper-case letters. -/
def isLowerName (text : String) : Bool :=
  match text.toList with
  | [] => false
  | c :: cs => (c.isLower || c == '_') && cs.all fun d => d.isLower || d.isDigit || d == '_'

theorem isLower_iff (c : Char) : c.isLower ↔ 97 ≤ c.toNat ∧ c.toNat ≤ 122 := by
  have hlower : c.isLower = (decide (c.val ≥ 97) && decide (c.val ≤ 122)) := rfl
  simp [hlower, UInt32.le_iff_toNat_le]

theorem toLower_eq_self_iff (c : Char) : c.toLower = c ↔ ¬(65 ≤ c.toNat ∧ c.toNat ≤ 90) := by
  rw [← Char.toNat_inj, toNat_toLower]
  split <;> omega

theorem startsName_and_toLower_iff (c : Char) :
    startsName c ∧ c.toLower = c ↔ c.isLower || c == '_' := by
  rw [startsName_iff, toLower_eq_self_iff, Bool.or_eq_true, isLower_iff, beq_iff_eq,
    ← Char.toNat_inj]
  change _ ↔ _ ∨ c.toNat = 95
  omega

theorem continuesName_and_toLower_iff (c : Char) :
    continuesName c ∧ c.toLower = c ↔ c.isLower || c.isDigit || c == '_' := by
  rw [continuesName_iff, startsName_iff, toLower_eq_self_iff, Bool.or_eq_true, Bool.or_eq_true,
    isLower_iff, isDigit_iff, beq_iff_eq, ← Char.toNat_inj]
  change _ ↔ _ ∨ c.toNat = 95
  omega

theorem key_eq_self_iff {name : String} (h : isName name) :
    key name = name ↔ ∀ c ∈ name.toList, c.toLower = c := by
  rw [key_of_isName h, ← String.toList_inj, String.toList_ofList]
  simpa using List.map_inj_left (f := Char.toLower) (g := id) (l := name.toList)

/-- The names in lower case are the names that are their own keys. -/
theorem isLowerName_iff {name : String} : isLowerName name ↔ isName name ∧ key name = name := by
  have hkey : isName name ∧ key name = name ↔
      isName name ∧ ∀ c ∈ name.toList, c.toLower = c := and_congr_right key_eq_self_iff
  rw [hkey]
  unfold isLowerName isName
  cases name.toList with
  | nil => simp
  | cons c cs =>
    simp only [Bool.and_eq_true, List.all_eq_true, List.forall_mem_cons,
      ← startsName_and_toLower_iff, ← continuesName_and_toLower_iff]
    grind

/-! ## Where names come from -/

theorem Lexeme.isName {l : List Char} {name : String} (h : Lexeme l (.ident name)) :
    isName name := by
  have hl : name.toList = l := by
    cases h
    exact String.toList_ofList
  exact isName_iff_lexeme.2 (hl ▸ h)

/-- The names among the tokens of a text are names. -/
theorem isName_of_scan {cs : List Char} {line : Nat} {ts : List Located}
    (h : scan line cs = .ok ts) : ∀ name l, ⟨.ident name, l⟩ ∈ ts → isName name := by
  induction cs using text_induction generalizing line ts with
  | nil =>
    rw [scan_nil] at h
    cases h
    simp
  | blank c cs hc ih =>
    rw [scan_blank line hc] at h
    exact ih h
  | lexeme l t after hl ha ih =>
    obtain ⟨us, hus, rfl⟩ := (scan_lexeme_eq_ok_iff line hl ha).1 h
    intro name m hmem
    rcases List.mem_cons.1 hmem with heq | hmem
    · cases heq
      exact hl.isName
    · exact ih hus name m hmem
  | leadingZero l after hl ha => simp [scan_leadingZero line hl ha] at h
  | stray c cs hc => simp [scan_stray line hc] at h

/-- Assigned names are tokens of the program. -/
theorem DerivesProgram.mem_of_name {w : List Located} {p : List Statement}
    (h : DerivesProgram w p) : ∀ s ∈ p, ⟨.ident s.name, s.line⟩ ∈ w := by
  induction h with
  | done => simp
  | @step u v s p hs _ ih =>
    obtain ⟨hu⟩ := hs
    intro st hst
    rcases List.mem_cons.1 hst with rfl | hst
    · simp
    · exact List.mem_append_right _ (ih st hst)

/-- Variables that an expression reads are tokens of it. -/
theorem Derives.mem_of_read {q : Prec} {w : List Located} {a : Expr} (h : Derives q w a) :
    ∀ r ∈ a.reads, ⟨.ident r.1, r.2⟩ ∈ w := by
  induction h with
  | product _ ih => exact ih
  | factor _ ih => exact ih
  | _ => grind [Expr.reads]

/-- Variables that a program reads are tokens of it. -/
theorem DerivesProgram.mem_of_read {w : List Located} {p : List Statement}
    (h : DerivesProgram w p) : ∀ s ∈ p, ∀ r ∈ s.value.reads, ⟨.ident r.1, r.2⟩ ∈ w := by
  induction h with
  | done => simp
  | @step u v s p hs _ ih =>
    obtain ⟨hu⟩ := hs
    intro st hst r hr
    rcases List.mem_cons.1 hst with rfl | hst
    · simp [hu.mem_of_read r hr]
    · exact List.mem_append_right _ (ih st hst r hr)

theorem mem_of_read_of_parse {ts : List Located} {p : List Statement} (h : parse ts = .ok p) :
    ∀ s ∈ p, ∀ r ∈ s.value.reads, ⟨.ident r.1, r.2⟩ ∈ ts := by
  obtain ⟨us, hus⟩ := parse_eq_ok_iff_statements.1 h
  obtain ⟨w, rfl, hw⟩ := statements_eq_done_iff.1 hus
  exact fun s hs r hr => List.mem_append_left _ (hw.mem_of_read s hs r hr)

/-- The names that the program of a text assigns are names. -/
theorem isName_of_parse {source : String} {ts : List Located} {p : List Statement}
    (hts : tokenize source = .ok ts) (hp : parse ts = .ok p) : ∀ s ∈ p, isName s.name := by
  obtain ⟨us, hus⟩ := parse_eq_ok_iff_statements.1 hp
  obtain ⟨w, rfl, hw⟩ := statements_eq_done_iff.1 hus
  intro s hs
  exact isName_of_scan hts s.name s.line (List.mem_append_left _ (hw.mem_of_name s hs))

end Reckoner
