import Reckoner.Phrase

/-!
# Reading programs

An assignment is a name, `=`, an expression and `;`. A program is a row of assignments up
to the first end mark; what comes after the mark is not looked at. `parse` reads a whole
program. If the tokens run out before an end mark, the error is reported on the line of
the last token, or on line one where there is none.
-/

namespace Reckoner

/-- Read what follows the name of an assignment; the value is the assigned expression. -/
def definition : Reader Expr := fun ts =>
  (expect .assign ts).bind fun _ ts =>
  (expression ts).bind fun value ts =>
  (expect .semicolon ts).bind fun _ ts =>
  .done value ts

/-- Read an assignment. -/
def assignment : Reader Statement := fun ts =>
  (identifier ts).bind fun (name, line) ts =>
  (definition ts).bind fun value ts =>
  .done ⟨name, value, line⟩ ts

theorem length_ahead_definition_le (ts : List Located) :
    (definition ts).ahead.length ≤ ts.length := by
  refine Reading.length_ahead_bind_le (length_ahead_expect_le _ ts) fun _ us => ?_
  refine Reading.length_ahead_bind_le (length_ahead_phrase_le _ us) fun _ vs => ?_
  exact Reading.length_ahead_bind_le (length_ahead_expect_le _ vs) fun _ _ => Nat.le_refl _

/-- An assignment that was read leaves fewer tokens ahead. -/
theorem length_ahead_assignment_lt {ts us : List Located} {s : Statement}
    (h : assignment ts = .done s us) : us.length < ts.length := by
  cases ts with
  | nil => simp [assignment, identifier] at h
  | cons t ts =>
    obtain ⟨token, line⟩ := t
    cases token with
    | ident name =>
      simp only [assignment, identifier, Reading.bind_done] at h
      have bound := Reading.length_ahead_bind_le (length_ahead_definition_le ts)
        (f := fun value ts => .done (Statement.mk name value line) ts) fun _ _ => Nat.le_refl _
      rw [h] at bound
      exact Nat.lt_succ_of_le bound
    | _ => simp [assignment, identifier] at h

/-- Read assignments up to the end mark, and the mark. -/
def statements : Reader (List Statement)
  | [] => .fail endOfTokens []
  | t :: ts =>
    if t.kind = .eof then .done [] ts
    else match _h : assignment (t :: ts) with
      | ⟨.ok s, us⟩ => (statements us).map (s :: ·)
      | ⟨.error e, us⟩ => .fail e us
termination_by ts => ts.length
decreasing_by exact length_ahead_assignment_lt _h

/-- The line of the last token, and one where there is none. -/
def lastLine (ts : List Located) : Nat :=
  match ts.getLast? with
  | some t => t.line
  | none => 1

/-- The program that a row of tokens spells out. -/
def parse (ts : List Located) : Except Error (List Statement) :=
  match (statements ts).outcome with
  | .ok program => .ok program
  | .error ⟨_, .endOfInput⟩ => .error ⟨lastLine ts, .endOfInput⟩
  | .error e => .error e

end Reckoner
