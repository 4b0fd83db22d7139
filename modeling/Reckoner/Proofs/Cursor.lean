import Reckoner.Proofs.Progress
import Reckoner.Proofs.Viability

/-!
# Operations at a cursor

Readers can be called one after another at one cursor, also after one of them failed
(`Operation`, `steps`). What every such step does is the same (`Step.Orderly`) : it leaves the end
of what was ahead, it gets ahead if it succeeds, and if it fails it leaves the token that the error
is about as the next one. An end mark or blank space is passed over by nothing but the expectation
of that very kind.

The tokens that are passed over and the place of a failure are followed through all readers at
once (`Careful`), since going on reading keeps both (`Careful.bind`).
-/

namespace Reckoner

variable {α β : Type} {P Q : Kind → Prop} {ts : List Located}

/-! ## Passing over tokens -/

/-- Where a reader stands when it has failed : the tokens have run out, or the error is about the
first one ahead, which is none of those that were wanted. -/
inductive StandsAt : Error → List Located → Prop where
  | atEnd : StandsAt endOfTokens []
  | atToken {e : Error} {t : Located} {us : List Located} {wanted : Kind → Prop}
      (blames : Blames e t wanted) (unwanted : ¬wanted t.kind) : StandsAt e (t :: us)

/-- Started at `ts`, the reader passes over tokens of the kinds `P` only, and where it fails it
stands at the token that the error is about. -/
def Careful (P : Kind → Prop) (r : Reader α) (ts : List Located) : Prop :=
  ∃ w, ts = w ++ (r ts).ahead ∧ (∀ t ∈ w, P t.kind) ∧
    ∀ e, (r ts).outcome = .error e → StandsAt e (r ts).ahead

namespace Careful

theorem mono {r : Reader α} (h : Careful P r ts) (hPQ : ∀ k, P k → Q k) : Careful Q r ts := by
  obtain ⟨w, hw, hP, he⟩ := h
  exact ⟨w, hw, fun t ht => hPQ t.kind (hP t ht), he⟩

/-- A reader that succeeds and passes over nothing. -/
theorem of_done {r : Reader α} {a : α} (h : r ts = .done a ts) : Careful P r ts :=
  ⟨[], by simp [h], by simp, by simp [h]⟩

theorem done (a : α) (ts : List Located) : Careful P (Reading.done a) ts :=
  of_done rfl

/-- A reader that fails before it has passed over anything. -/
theorem of_fail {r : Reader α} {e : Error} (h : r ts = .fail e ts) (he : StandsAt e ts) :
    Careful P r ts := by
  refine ⟨[], by simp [h], by simp, fun e' he' => ?_⟩
  rw [h] at he' ⊢
  cases he'
  exact he

/-- A reader that goes on as `r'` behind the first token. -/
theorem of_cons {r : Reader α} {t : Located} (r' : Reader α) (h : r (t :: ts) = r' ts)
    (ht : P t.kind) (hr' : Careful P r' ts) : Careful P r (t :: ts) := by
  obtain ⟨w, hw, hP, he⟩ := hr'
  rw [← h] at hw he
  refine ⟨t :: w, by rw [List.cons_append, ← hw], ?_, he⟩
  intro u hu
  rcases List.mem_cons.1 hu with rfl | hu
  · exact ht
  · exact hP u hu

/-- Reading on where a reader stopped passes over what both of them pass over. -/
theorem bind {r : Reader α} {f : α → Reader β} (hr : Careful P r ts)
    (hf : ∀ a us, r ts = .done a us → Careful P (f a) us) :
    Careful P (fun ts => (r ts).bind f) ts := by
  obtain ⟨w, hw, hP, he⟩ := hr
  cases hrts : r ts with
  | mk outcome rest =>
    simp only [Careful, hrts] at hw he ⊢
    cases outcome with
    | error e =>
      -- The error is the same one, but of a reading of another type.
      refine ⟨w, hw, hP, fun e' he' => ?_⟩
      cases he'
      exact he e rfl
    | ok a =>
      obtain ⟨x, hx, hPx, hex⟩ := hf a rest hrts
      refine ⟨w ++ x, ?_, ?_, hex⟩
      · rw [Reading.bind_done, List.append_assoc, ← hx]
        exact hw
      · intro t ht
        rcases List.mem_append.1 ht with ht | ht
        · exact hP t ht
        · exact hPx t ht

theorem map {r : Reader α} (f : α → β) (hr : Careful P r ts) :
    Careful P (fun ts => (r ts).map f) ts :=
  bind hr fun a us _ => done (f a) us

end Careful

theorem careful_expect (kind : Kind) (ts : List Located) :
    Careful (· = kind) (expect kind) ts := by
  cases ts with
  | nil => exact .of_fail rfl .atEnd
  | cons t ts =>
    by_cases hk : t.kind = kind
    · exact .of_cons _ (by rw [expect, if_pos hk]) hk (.done t ts)
    · exact .of_fail (by rw [expect, if_neg hk]) (.atToken (.token kind t) hk)

/-- The kinds of tokens that assignments and expressions are made of. -/
def Kind.Meaningful (k : Kind) : Prop :=
  k ≠ .eof ∧ k ≠ .blank

instance : DecidablePred Kind.Meaningful :=
  fun k => inferInstanceAs (Decidable (k ≠ .eof ∧ k ≠ .blank))

theorem careful_expect_of_meaningful {kind : Kind} (h : kind.Meaningful) (ts : List Located) :
    Careful Kind.Meaningful (expect kind) ts :=
  (careful_expect kind ts).mono fun _ hk => hk ▸ h

theorem careful_peek (ts : List Located) : Careful Kind.Meaningful peek ts := by
  cases ts with
  | nil => exact .of_fail rfl .atEnd
  | cons t ts => exact .of_done rfl

theorem careful_identifier (ts : List Located) : Careful Kind.Meaningful identifier ts := by
  cases ts with
  | nil => exact .of_fail rfl .atEnd
  | cons t ts =>
    obtain ⟨token, line⟩ := t
    cases token with
    | ident name =>
      exact .of_cons _ rfl (show Kind.ident.Meaningful by decide) (.done (name, line) ts)
    | _ =>
      exact .of_fail rfl (.atToken (.token .ident ⟨_, line⟩) (by simp [Located.kind, Token.kind]))

theorem careful_factor
    (ih : ∀ p us, us.length < ts.length → Careful Kind.Meaningful (phrase p) us) :
    Careful Kind.Meaningful (phrase .factor) ts := by
  cases ts with
  | nil => exact .of_fail phrase_factor_nil .atEnd
  | cons t ts =>
    obtain ⟨token, line⟩ := t
    have hfactor := ih .factor ts (by simp)
    cases token with
    | plus =>
      exact .of_cons _ (by rw [phrase_factor_cons]) (show Kind.plus.Meaningful by decide)
        (hfactor.map _)
    | minus =>
      exact .of_cons _ (by rw [phrase_factor_cons]) (show Kind.minus.Meaningful by decide)
        (hfactor.map _)
    | integer value =>
      exact .of_cons _ (by rw [phrase_factor_cons]) (show Kind.integer.Meaningful by decide)
        (.done (.number value line) ts)
    | ident name =>
      exact .of_cons _ (by rw [phrase_factor_cons]) (show Kind.ident.Meaningful by decide)
        (.done (.var name line) ts)
    | leftParen =>
      refine .of_cons _ (by rw [phrase_factor_cons]) (show Kind.leftParen.Meaningful by decide) ?_
      exact .bind (ih .sum ts (by simp)) fun a us _ =>
        (careful_expect_of_meaningful (by decide) us).map _
    | _ =>
      exact .of_fail (by rw [phrase_factor_cons]) (.atToken (.expression ⟨_, line⟩)
        (by simp [Kind.StartsExpression, Located.kind, Token.kind]))

theorem Prec.meaningful_of_operator? {p : Prec} {token : Token} {op : Operator}
    (h : p.operator? token = some op) : token.kind.Meaningful := by
  cases p <;> cases token <;> simp [operator?] at h <;> simp [Kind.Meaningful, Token.kind]

theorem careful_phrase (p : Prec) (ts : List Located) :
    Careful Kind.Meaningful (phrase p) ts := by
  have both := phrase_chain_course
    (P := fun p ts => Careful Kind.Meaningful (phrase p) ts)
    (C := fun p left ts => Careful Kind.Meaningful (chain p left) ts)
    (fun ts ih => careful_factor ih) (fun p ts hp hc => ?_)
    (fun p left => .of_done (chain_nil p left))
    (fun p left t ts hop => .of_done (by rw [chain_cons, hop]))
    fun p left t ts op hop hp hc => ?_
  · exact both.1 p ts
  · rw [funext (phrase_eq_bind p)]
    exact .bind hp hc
  · exact .of_cons _ (by rw [chain_cons, hop]) (Prec.meaningful_of_operator? hop) (.bind hp hc)

theorem careful_definition (ts : List Located) : Careful Kind.Meaningful definition ts :=
  .bind (careful_expect_of_meaningful (by decide) ts) fun _ us _ =>
    .bind (careful_phrase .sum us) fun _ vs _ =>
      (careful_expect_of_meaningful (by decide) vs).map _

theorem careful_assignment (ts : List Located) : Careful Kind.Meaningful assignment ts :=
  .bind (careful_identifier ts) fun _ us _ => (careful_definition us).map _

/-! ## Steps -/

/-- What an operation finds at a cursor. -/
inductive Finding where
  | token (t : Located)
  | name (name : String) (line : Nat)
  | expr (e : Expr)
  | statement (s : Statement)

/-- An operation at a cursor. -/
inductive Operation where
  /-- Look at the next token. -/
  | peek
  /-- Read a token of the kind. -/
  | expect (kind : Kind)
  /-- Read a name. -/
  | identifier
  /-- Read an expression of the level, which for `sum` is any expression. -/
  | phrase (p : Prec)
  /-- Read an assignment. -/
  | assignment

namespace Operation

/-- What an operation does at a cursor. -/
def read : Operation → Reader Finding
  | peek => fun ts => (Reckoner.peek ts).map .token
  | expect kind => fun ts => (Reckoner.expect kind ts).map .token
  | identifier => fun ts => (Reckoner.identifier ts).map fun n => .name n.1 n.2
  | phrase p => fun ts => (Reckoner.phrase p ts).map .expr
  | assignment => fun ts => (Reckoner.assignment ts).map .statement

/-- How many tokens the operation takes at least when it succeeds. -/
def least : Operation → Nat
  | peek => 0
  | expect _ => 1
  | identifier => 1
  | phrase _ => 1
  | assignment => 4

/-- The kinds of tokens that the operation can pass over. -/
def Passes : Operation → Kind → Prop
  | expect kind => (· = kind)
  | _ => Kind.Meaningful

theorem careful_read (op : Operation) (ts : List Located) : Careful op.Passes op.read ts := by
  cases op with
  | peek => exact (careful_peek ts).map _
  | expect kind => exact (careful_expect kind ts).map _
  | identifier => exact (careful_identifier ts).map _
  | phrase p => exact (careful_phrase p ts).map _
  | assignment => exact (careful_assignment ts).map _

/-- An operation that succeeds gets ahead. -/
theorem length_ahead_read {op : Operation} {ts us : List Located} {a : Finding}
    (h : op.read ts = .done a us) : us.length + op.least ≤ ts.length := by
  cases op <;> obtain ⟨b, hb, -⟩ := Reading.map_eq_done_iff.1 h
  case peek =>
    cases ts <;> cases hb
    exact Nat.le_refl _
  case expect kind =>
    obtain ⟨rfl, -⟩ := expect_eq_done_iff.1 hb
    exact Nat.le_refl _
  case identifier =>
    obtain rfl := identifier_eq_done_iff.1 hb
    exact Nat.le_refl _
  case phrase p => exact length_ahead_phrase hb
  case assignment => exact length_ahead_assignment hb

end Operation

/-- An operation that was carried out, with the tokens that were ahead and what was read. -/
structure Step where
  operation : Operation
  before : List Located
  reading : Reading Finding

/-- The steps of operations at one cursor, each where the one before it left the cursor. -/
def steps (ts : List Located) : List Operation → List Step
  | [] => []
  | op :: ops => ⟨op, ts, op.read ts⟩ :: steps (op.read ts).ahead ops

/-- A step moves the cursor as it should. -/
structure Step.Orderly (s : Step) : Prop where
  /-- What is ahead is the end of what was. -/
  suffix : s.reading.ahead <:+ s.before
  /-- A step that succeeds takes as many tokens as its operation needs. -/
  progress : ∀ a, s.reading.outcome = .ok a →
    s.reading.ahead.length + s.operation.least ≤ s.before.length
  /-- A step that fails stands at the token that the error is about, or at the end. -/
  failure : ∀ e, s.reading.outcome = .error e → StandsAt e s.reading.ahead
  /-- End marks and blank space are passed over by nothing but the expectation of their kind. -/
  passed : ∀ w, s.before = w ++ s.reading.ahead → ∀ t ∈ w, t.kind = .eof ∨ t.kind = .blank →
    s.operation = .expect t.kind

theorem Operation.orderly (op : Operation) (ts : List Located) :
    Step.Orderly ⟨op, ts, op.read ts⟩ := by
  obtain ⟨w, hw, hpasses, hfailure⟩ := op.careful_read ts
  refine ⟨⟨w, hw.symm⟩, fun a ha => ?_, hfailure, fun w' hw' t ht hk => ?_⟩
  · exact length_ahead_read (a := a) (congrArg (Reading.mk · (op.read ts).ahead) ha)
  · obtain rfl : w' = w := List.append_cancel_right (hw'.symm.trans hw)
    have hpass := hpasses t ht
    cases op with
    | expect kind => exact congrArg Operation.expect hpass.symm
    | _ =>
      rcases hk with hk | hk
      · exact absurd hk hpass.1
      · exact absurd hk hpass.2

theorem orderly_of_mem_steps {step : Step} {ops : List Operation} (h : step ∈ steps ts ops) :
    step.before <:+ ts ∧ step.Orderly := by
  induction ops generalizing ts with
  | nil => simp [steps] at h
  | cons op ops ih =>
    have hfirst := op.orderly ts
    rcases List.mem_cons.1 h with rfl | h
    · exact ⟨List.suffix_rfl, hfirst⟩
    · obtain ⟨hsuffix, hstep⟩ := ih h
      exact ⟨hsuffix.trans hfirst.suffix, hstep⟩

/-- Whatever operations are carried out at one cursor, failing ones included, each of them moves
it as it should. Reading an expression calls itself to a depth that is linear in the number of
tokens, and reading a program goes round once for every four tokens and once more, so both come
to an end. -/
theorem steps_orderly_and_bounded (ts : List Located) :
    (∀ ops, ∀ step ∈ steps ts ops, step.before <:+ ts ∧ step.Orderly) ∧
    (∀ n p, 3 * ts.length + p.rank < n → phraseWithin n p ts = some (phrase p ts)) ∧
    ∀ n, ts.length < 4 * n → statementsWithin n ts = some (statements ts) := by
  refine ⟨fun ops step h => orderly_of_mem_steps h, fun n p h => ?_, fun n h => ?_⟩
  · exact (phraseWithin_chainWithin n).1 p ts h
  · exact statementsWithin_eq h

/-- The tokens of `x = (1 +` and the end mark, each on a line of its own. -/
def unfinishedRow : List Located :=
  [⟨.ident "x", 1⟩, ⟨.assign, 2⟩, ⟨.leftParen, 3⟩, ⟨.integer 1, 4⟩, ⟨.plus, 5⟩, ⟨.eof, 6⟩]

/-- The assignment fails at the end mark, five tokens on. No expression gets over the mark
either, and the expectation of an end mark does. -/
def unfinishedSteps : List Step :=
  [⟨.assignment, unfinishedRow, .fail ⟨6, .expectedExpression .eof⟩ [⟨.eof, 6⟩]⟩,
    ⟨.phrase .product, [⟨.eof, 6⟩], .fail ⟨6, .expectedExpression .eof⟩ [⟨.eof, 6⟩]⟩,
    ⟨.expect .eof, [⟨.eof, 6⟩], .done (.token ⟨.eof, 6⟩) []⟩]

/-- These are the steps of the three operations, and they are orderly. The program fails where
the assignment does. -/
theorem steps_orderly_and_bounded_unfinished :
    steps unfinishedRow [.assignment, .phrase .product, .expect .eof] = unfinishedSteps ∧
    (∀ step ∈ unfinishedSteps, step.Orderly) ∧
    statements unfinishedRow = .fail ⟨6, .expectedExpression .eof⟩ [⟨.eof, 6⟩] := by
  obtain ⟨horderly, -, hrounds⟩ := steps_orderly_and_bounded unfinishedRow
  -- The readers with a bound can be run.
  have hvalue : phrase .sum (unfinishedRow.drop 2) =
      .fail ⟨6, .expectedExpression .eof⟩ [⟨.eof, 6⟩] :=
    Option.some.inj
      ((steps_orderly_and_bounded (unfinishedRow.drop 2)).2.1 15 .sum (by decide)).symm
  have hproduct : phrase .product [⟨.eof, 6⟩] = .fail ⟨6, .expectedExpression .eof⟩ [⟨.eof, 6⟩] :=
    Option.some.inj ((steps_orderly_and_bounded [⟨.eof, 6⟩]).2.1 5 .product (by decide)).symm
  have hassignment : assignment unfinishedRow =
      .fail ⟨6, .expectedExpression .eof⟩ [⟨.eof, 6⟩] := by
    change Reading.bind (Reading.bind (phrase .sum (unfinishedRow.drop 2)) _) _ = _
    rw [hvalue]
    rfl
  have hsteps : steps unfinishedRow [.assignment, .phrase .product, .expect .eof] =
      unfinishedSteps := by
    simp only [steps, Operation.read, hassignment, hproduct, Reading.map, Reading.bind_fail]
    rfl
  refine ⟨hsteps, fun step h => (horderly _ step (hsteps ▸ h)).2, ?_⟩
  refine Option.some.inj ((hrounds 2 (by decide)).symm.trans ?_)
  change Reading.goOn (some (assignment unfinishedRow)) _ = _
  rw [hassignment]
  rfl

end Reckoner
