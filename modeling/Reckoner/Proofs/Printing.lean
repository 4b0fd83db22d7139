import Reckoner.Proofs.Derivation
import Reckoner.Proofs.Lines
import Reckoner.Proofs.Scanning

/-!
# Printed statements read back

The text of a list of statements whose names are names is a program again. Reading it gives
the same statements but for two things (`Statement.reread`) : every node stands on line one,
and a negative integer, which has no literal, comes back as a minus sign before its absolute
value (`Expr.spelled`). Neither changes what the program does (`Store.run_reread`).

Three steps lead there. The text of an expression scans to a row of tokens (`Expr.row`,
`Expr.scans`), whatever follows, unless it prolongs a name. The row derives the expression as
a factor, because it is an atom, an atom with a sign, or stands in parentheses
(`Expr.derives`). Rows of statements one after another derive the program.
-/

namespace Reckoner

/-! ## Decimal texts -/

theorem head?_toDigits_ne_zero {n : Nat} (h : 0 < n) :
    (Nat.toDigits 10 n).head? ≠ some '0' := by
  induction n using Nat.strongRecOn with
  | ind n ih =>
    rw [Nat.toDigits_eq_if (by decide)]
    split
    · simp only [List.head?_cons, ne_eq, Option.some.injEq, Nat.digitChar_eq_zero]
      omega
    · have hhead := ih (n / 10) (by omega) (by omega)
      have hne : Nat.toDigits 10 (n / 10) ≠ [] := Nat.toDigits_ne_nil
      obtain ⟨c, cs, hcs⟩ := List.exists_cons_of_ne_nil hne
      rw [hcs] at hhead ⊢
      exact hhead

/-- The decimal text of a natural number is a literal. -/
theorem lexeme_toDigits (n : Nat) : Lexeme (Nat.toDigits 10 n) (.integer n) := by
  rcases Nat.eq_zero_or_pos n with rfl | hn
  · rw [Nat.toDigits_zero]
    exact .zero
  · have hdigits : ∀ c ∈ Nat.toDigits 10 n, c.isDigit := fun c hc =>
      Nat.isDigit_of_mem_toDigits (by decide) (by decide) hc
    have hhead := head?_toDigits_ne_zero hn
    have hvalue := Numeral.value_toDigits n
    obtain ⟨c, cs, hcs⟩ := List.exists_cons_of_ne_nil (Nat.toDigits_ne_nil (b := 10) (n := n))
    rw [hcs] at hdigits hhead hvalue ⊢
    rw [List.forall_mem_cons] at hdigits
    have hc : c ≠ '0' := by simpa using hhead
    have := Lexeme.numeral hdigits.1 hc hdigits.2
    rwa [hvalue] at this

theorem toList_text_of_nonneg {v : Int} (h : 0 ≤ v) :
    (Numeral.text v).toList = Nat.toDigits 10 v.toNat := by
  obtain ⟨n, rfl⟩ := Int.eq_ofNat_of_zero_le h
  exact String.toList_ofList

theorem toList_text_of_neg {v : Int} (h : v < 0) :
    (Numeral.text v).toList = '-' :: Nat.toDigits 10 (-v).toNat := by
  obtain ⟨n, rfl⟩ := Int.eq_negSucc_of_lt_zero h
  simp [Numeral.text, Numeral.natText, Int.neg_negSucc]

/-! ## What comes back -/

namespace Expr

/-- The expression with every negative integer `-k` as a minus sign before `k`. -/
def spelled : Expr → Expr
  | .number value line =>
    if value < 0 then .signed .minus (.number (-value) line) line else .number value line
  | .var name line => .var name line
  | .signed sign operand line => .signed sign operand.spelled line
  | .binary left op right line => .binary left.spelled op right.spelled line

/-- No integer of the expression is negative. -/
def Nonnegative : Expr → Prop
  | .number value _ => 0 ≤ value
  | .var _ _ => True
  | .signed _ operand _ => operand.Nonnegative
  | .binary left _ right _ => left.Nonnegative ∧ right.Nonnegative

theorem Nonnegative.spelled_eq {e : Expr} (h : e.Nonnegative) : e.spelled = e := by
  induction e with
  | number value line => exact if_neg (Int.not_lt.2 h)
  | var name line => rfl
  | signed sign operand line ih => rw [spelled, ih h]
  | binary left op right line ihl ihr => rw [spelled, ihl h.1, ihr h.2]

end Expr

namespace Statement

/-- The statement with every negative integer of its value as a minus sign before a literal. -/
def spelled (s : Statement) : Statement :=
  ⟨s.name, s.value.spelled, s.line⟩

/-- The statement as it is read back from its text. -/
def reread (s : Statement) : Statement :=
  s.spelled.mapLines fun _ => 1

/-- The assigned name and all variables of the value are names. -/
def Named (s : Statement) : Prop :=
  isName s.name ∧ ∀ v ∈ s.value.reads, isName v.1

instance (s : Statement) : Decidable s.Named :=
  inferInstanceAs (Decidable (_ ∧ ∀ v ∈ s.value.reads, _))

end Statement

/-! ## Texts as rows of tokens -/

/-- The token that a sign is written as. -/
def Sign.token : Sign → Token
  | .plus => .plus
  | .minus => .minus

/-- The token that an operator is written as. -/
def Operator.token : Operator → Token
  | .add => .plus
  | .sub => .minus
  | .mul => .times

namespace Expr

/-- The tokens of the text of an expression, on the line `line`. -/
def row (line : Nat) : Expr → List Located
  | .number value _ =>
    if value < 0 then [⟨.minus, line⟩, ⟨.integer (-value), line⟩] else [⟨.integer value, line⟩]
  | .var name _ => [⟨.ident name, line⟩]
  | .signed sign operand _ =>
    ⟨.leftParen, line⟩ :: ⟨sign.token, line⟩ :: (operand.row line ++ [⟨.rightParen, line⟩])
  | .binary left op right _ =>
    ⟨.leftParen, line⟩ :: (left.row line ++ ⟨op.token, line⟩ ::
      (right.row line ++ [⟨.rightParen, line⟩]))

theorem scans_number (v : Int) (l line : Nat) {after : List Char} (ha : ∀ t, Ends t after) :
    Scans line (Numeral.text v).toList ((Expr.number v l).row line) after := by
  by_cases hv : v < 0
  · have hlit := lexeme_toDigits (-v).toNat
    rw [Int.toNat_of_nonneg (by omega)] at hlit
    rw [row, if_pos hv, toList_text_of_neg hv]
    exact .cons_sign rfl (.lexeme hlit (ha _))
  · have hlit := lexeme_toDigits v.toNat
    rw [Int.toNat_of_nonneg (by omega)] at hlit
    rw [row, if_neg hv, toList_text_of_nonneg (by omega)]
    exact .lexeme hlit (ha _)

/-- The text of an expression scans to its row, unless what follows prolongs it. -/
theorem scans (e : Expr) (h : ∀ v ∈ e.reads, isName v.1) (line : Nat) {after : List Char}
    (ha : ∀ t, Ends t after) : Scans line e.text.toList (e.row line) after := by
  have close : ∀ cs, Scans line [')'] [⟨.rightParen, line⟩] cs := fun _ => .cons_sign rfl .nil
  have hclose : ∀ t cs, Ends t (')' :: cs) := fun t cs => ends_of_not_continuesName t (by decide) cs
  have hspace : ∀ t cs, Ends t (' ' :: cs) := fun t cs => ends_of_isBlank t Text.isBlank_space cs
  induction e generalizing after with
  | number v l => exact scans_number v l line ha
  | var name l =>
    have hname : isName name := h (name, l) (by simp [reads])
    exact .lexeme (isName_iff_lexeme.1 hname) (ha _)
  | signed sign operand l ih =>
    obtain ⟨c, hc, ht⟩ : ∃ c, sign.text.toList = [c] ∧ Token.ofSign? c = some sign.token := by
      cases sign <;> exact ⟨_, rfl, rfl⟩
    have htext : (Expr.signed sign operand l).text.toList =
        '(' :: c :: (operand.text.toList ++ [')']) := by
      simp [text, hc]
    rw [htext]
    exact .cons_sign rfl (.cons_sign ht ((ih h (hclose · _)).append (close _)))
  | binary left op right l ihl ihr =>
    obtain ⟨c, hc, ht⟩ : ∃ c, op.text.toList = [c] ∧ Token.ofSign? c = some op.token := by
      cases op <;> exact ⟨_, rfl, rfl⟩
    have htext : (Expr.binary left op right l).text.toList =
        '(' :: (left.text.toList ++ ' ' :: c :: ' ' :: (right.text.toList ++ [')'])) := by
      simp [text, hc]
    have hl : ∀ v ∈ left.reads, isName v.1 := fun v hv => h v (by simp [reads, hv])
    have hr : ∀ v ∈ right.reads, isName v.1 := fun v hv => h v (by simp [reads, hv])
    rw [htext]
    refine .cons_sign rfl ((ihl hl (hspace · _)).append (.cons_space (.cons_sign ht ?_)))
    exact .cons_space ((ihr hr (hclose · _)).append (close _))

/-- The row of an expression derives what comes back, as a factor. -/
theorem derives (e : Expr) (line : Nat) :
    Derives .factor (e.row line) (e.spelled.mapLines fun _ => line) := by
  induction e with
  | number v l =>
    by_cases hv : v < 0
    · rw [row, if_pos hv, spelled, if_pos hv]
      exact .minus .number
    · rw [row, if_neg hv, spelled, if_neg hv]
      exact .number
  | var name l => exact .var
  | signed sign operand l ih =>
    cases sign with
    | plus => exact .group (.product (.factor (.plus ih)))
    | minus => exact .group (.product (.factor (.minus ih)))
  | binary left op right l ihl ihr =>
    have hsum : Derives .sum (left.row line ++ ⟨op.token, line⟩ :: right.row line)
        ((Expr.binary left op right l).spelled.mapLines fun _ => line) := by
      cases op with
      | add => exact .add (.product (.factor ihl)) (.factor ihr)
      | sub => exact .sub (.product (.factor ihl)) (.factor ihr)
      | mul => exact .product (.mul (.factor ihl) ihr)
    have hrow : (Expr.binary left op right l).row line = ⟨.leftParen, line⟩ ::
        (left.row line ++ ⟨op.token, line⟩ :: right.row line) ++ [⟨.rightParen, line⟩] := by
      simp [row]
    rw [hrow]
    exact .group hsum

end Expr

namespace Statement

/-- The tokens of the text of a statement, on the line `line`. -/
def row (line : Nat) (s : Statement) : List Located :=
  ⟨.ident s.name, line⟩ :: ⟨.assign, line⟩ :: (s.value.row line ++ [⟨.semicolon, line⟩])

theorem scans {s : Statement} (h : s.Named) (line : Nat) (after : List Char) :
    Scans line s.text.toList (s.row line) after := by
  have hspace : Ends (.ident s.name)
      (' ' :: '=' :: ' ' :: (s.value.text.toList ++ [';']) ++ after) :=
    ends_of_isBlank _ Text.isBlank_space _
  have hsemi : ∀ t, Ends t ([';'] ++ after) := fun t => ends_of_not_continuesName t (by decide) _
  have htext : s.text.toList =
      s.name.toList ++ ' ' :: '=' :: ' ' :: (s.value.text.toList ++ [';']) := by
    simp [text]
  have hvalue : Scans line (s.value.text.toList ++ [';'])
      (s.value.row line ++ [⟨.semicolon, line⟩]) after :=
    (s.value.scans h.2 line hsemi).append (.cons_sign rfl .nil)
  rw [htext]
  exact (Scans.lexeme (isName_iff_lexeme.1 h.1) hspace).append
    (.cons_space (.cons_sign rfl (.cons_space hvalue)))

theorem derives (s : Statement) : DerivesStatement (s.row 1) s.reread :=
  .assign (.product (.factor (s.value.derives 1)))

end Statement

/-! ## Programs -/

/-- The text of a program, its statements separated by spaces. -/
def programText (p : List Statement) : String :=
  " ".intercalate (p.map Statement.text)

/-- The tokens of the text of a program, without the end mark. -/
def programRow (p : List Statement) : List Located :=
  p.flatMap (Statement.row 1)

theorem scans_programText {p : List Statement} (h : ∀ s ∈ p, s.Named) :
    Scans 1 (programText p).toList (programRow p) [] := by
  induction p with
  | nil => exact .nil
  | cons s p ih =>
    rw [List.forall_mem_cons] at h
    cases p with
    | nil => simpa [programText, programRow] using s.scans h.1 1 []
    | cons t p =>
      have htext : (programText (s :: t :: p)).toList =
          s.text.toList ++ ' ' :: (programText (t :: p)).toList := by
        simp [programText]
      rw [htext]
      exact (s.scans h.1 1 _).append (.cons_space (ih h.2))

theorem derives_programRow (p : List Statement) :
    DerivesProgram (programRow p ++ [⟨.eof, 1⟩]) (p.map Statement.reread) := by
  induction p with
  | nil => exact .done
  | cons s p ih =>
    rw [programRow, List.flatMap_cons, List.append_assoc]
    exact .step s.derives ih

theorem tokenize_programText {p : List Statement} (h : ∀ s ∈ p, s.Named) :
    tokenize (programText p) = .ok (programRow p ++ [⟨.eof, 1⟩]) := by
  have := scans_programText h
  rw [Scans, List.append_nil, scan_nil] at this
  exact this

theorem parse_programRow (p : List Statement) :
    parse (programRow p ++ [⟨.eof, 1⟩]) = .ok (p.map Statement.reread) := by
  have := (derives_programRow p).parse_append []
  rwa [List.append_nil] at this

/-! ## Running what comes back -/

namespace Store

variable (s : Store)

theorem eval_spelled (e : Expr) : s.eval e.spelled = s.eval e := by
  induction e with
  | number value line =>
    by_cases hv : value < 0
    · rw [Expr.spelled, if_pos hv]
      exact congrArg Except.ok (Int.neg_neg value)
    · rw [Expr.spelled, if_neg hv]
  | var name line => rfl
  | signed sign operand line ih => rw [Expr.spelled, eval_signed, eval_signed, ih]
  | binary left op right line ihl ihr => rw [Expr.spelled, eval_binary, eval_binary, ihl, ihr]

theorem run_spelled (p : List Statement) : s.run (p.map Statement.spelled) = s.run p := by
  induction p generalizing s with
  | nil => rfl
  | cons st p ih =>
    have heval := s.eval_spelled st.value
    cases hv : s.eval st.value with
    | error e => rw [List.map_cons, run_cons_of_error hv, run_cons_of_error (heval.trans hv)]
    | ok v =>
      rw [List.map_cons, run_cons_of_ok hv, run_cons_of_ok (heval.trans hv), ih]
      rfl

/-- What is read back runs like the program, with its error on line one. -/
theorem run_reread (p : List Statement) :
    s.run (p.map Statement.reread) = (s.run p).mapLines fun _ => 1 := by
  have hmap : p.map Statement.reread =
      (p.map Statement.spelled).map (Statement.mapLines fun _ => 1) := by
    rw [List.map_map]
    rfl
  rw [hmap, run_mapLines, run_spelled]

end Store

/-- The text of a program whose names are names is read back as the same program, on line one
and with negative integers as a minus sign before a literal. Without negative integers only
the lines change, and in every store what is read back does the same. -/
theorem parse_tokenize_programText (p : List Statement) (h : ∀ s ∈ p, s.Named) :
    ∃ ts, tokenize (programText p) = .ok ts ∧ parse ts = .ok (p.map Statement.reread) ∧
      ((∀ s ∈ p, s.value.Nonnegative) →
        parse ts = .ok (p.map (Statement.mapLines fun _ => 1))) ∧
      ∀ s : Store, (s.run (p.map Statement.reread)).store = (s.run p).store ∧
        (s.run (p.map Statement.reread)).error? = (s.run p).error?.map fun e => ⟨1, e.cause⟩ := by
  refine ⟨_, tokenize_programText h, parse_programRow p, fun hn => ?_, fun s => ?_⟩
  · rw [parse_programRow]
    refine congrArg Except.ok (List.map_congr_left fun s hs => ?_)
    rw [Statement.reread, Statement.spelled, (hn s hs).spelled_eq]
  · rw [s.run_reread]
    refine ⟨rfl, ?_⟩
    exact congrArg (fun g => (s.run p).error?.map g) (funext (Error.mapLine_eq fun _ => 1))

/-- Two minus signs before a literal come back from a minus sign before a negative integer. -/
theorem parse_tokenize_programText_negative :
    (∀ s ∈ [Statement.mk "_x1" (.signed .minus (.number (-5) 3) 2) 7], s.Named) ∧
      ∃ ts, tokenize (programText [⟨"_x1", .signed .minus (.number (-5) 3) 2, 7⟩]) = .ok ts ∧
        parse ts = .ok [⟨"_x1", .signed .minus (.signed .minus (.number 5 1) 1) 1, 1⟩] := by
  have hnamed : ∀ s ∈ [Statement.mk "_x1" (.signed .minus (.number (-5) 3) 2) 7], s.Named := by
    decide
  obtain ⟨ts, htokens, hparse, -⟩ := parse_tokenize_programText _ hnamed
  exact ⟨hnamed, ts, htokens, hparse⟩

end Reckoner
