import Reckoner.Grammar
import Reckoner.Program

/-!
# Reading follows the grammar

The readers of expressions, assignments and programs succeed exactly on what the grammar
derives, with the tree of the derivation. At an expression, the tokens that are read are
those of a derivation, and the reading stops because what is ahead goes on with no chain of
the level (`Prec.Stops`, `phrase_eq_done_iff`).

Reading to deriving is an induction on the number of tokens (`phrase_chain_induction`). In
the other direction the grammar is recursive on the left where the reader goes on to the
right. What meets in the middle is `Derives.phrase_append` : after the tokens of an
expression, whatever follows, the reader stands in the chain of its level with the
expression as its left part.
-/

namespace Reckoner

/-- Tokens of one kind are the same, unless they have a name or a value. -/
theorem Token.eq_of_kind {s t : Token} (h : s.kind = t.kind)
    (ht : t.kind ≠ .ident ∧ t.kind ≠ .integer) : s = t := by
  cases t <;> cases s <;> simp [kind] at h ht ⊢

/-! ## Where a chain stops -/

namespace Prec

/-- The next token is no operator of the level or of a tighter one. -/
def Stops (p : Prec) (ts : List Located) : Prop :=
  ∀ t ∈ ts.head?, ∀ q : Prec, q.rank ≤ p.rank → q.operator? t.token = none

theorem rank_operand_le (p : Prec) : p.operand.rank ≤ p.rank := by
  cases p <;> decide

theorem stops_factor (ts : List Located) : factor.Stops ts := by
  intro t _ q hq
  cases q with
  | factor => cases t.token <;> rfl
  | _ => simp [rank] at hq

theorem Stops.operand {p : Prec} {ts : List Located} (h : p.Stops ts) : p.operand.Stops ts :=
  fun t ht q hq => h t ht q (Nat.le_trans hq p.rank_operand_le)

/-- A level stops where its operands stop and no operator of its own follows. -/
theorem stops_of_operand {p : Prec} {ts : List Located} (h : p.operand.Stops ts)
    (hp : ∀ t ∈ ts.head?, p.operator? t.token = none) : p.Stops ts := by
  intro t ht q hq
  rcases Nat.lt_or_ge p.operand.rank q.rank with hlt | hge
  · have hqp : q = p := by
      cases p <;> cases q <;> simp [rank, Prec.operand] at hlt hq ⊢
    exact hqp ▸ hp t ht
  · exact h t ht q hge

/-- A token that is an operator of a level is none of another level. -/
theorem operator?_of_ne {p q : Prec} {token : Token} {op : Operator}
    (h : p.operator? token = some op) (hq : q ≠ p) : q.operator? token = none := by
  cases token <;> cases p <;> cases h <;> cases q <;> simp [operator?] at hq ⊢

theorem rank_operand_lt {p : Prec} {token : Token} {op : Operator}
    (h : p.operator? token = some op) : p.operand.rank < p.rank := by
  cases p with
  | factor => cases token <;> cases h
  | _ => decide

/-- Operands stop before the operators of their chain. -/
theorem operand_stops_of_operator? {p : Prec} {t : Located} {op : Operator}
    (h : p.operator? t.token = some op) (ts : List Located) : p.operand.Stops (t :: ts) := by
  rintro u ⟨⟩ q hq
  have hlt := Nat.lt_of_le_of_lt hq (rank_operand_lt h)
  refine operator?_of_ne h ?_
  rintro rfl
  exact Nat.lt_irrefl _ hlt

/-- Every level stops before a token that is no operator. -/
theorem stops_of_token {token : Token} (h : ∀ p : Prec, p.operator? token = none) (line : Nat)
    (p : Prec) (ts : List Located) : p.Stops (⟨token, line⟩ :: ts) := by
  rintro u ⟨⟩ q _
  exact h q

end Prec

theorem chain_of_stops {p : Prec} {ts : List Located} (h : p.Stops ts) (left : Expr) :
    chain p left ts = .done left ts := by
  cases ts with
  | nil => exact chain_nil p left
  | cons t ts => rw [chain_cons, h t (by simp) p (Nat.le_refl _)]

/-- A factor is no chain. -/
theorem chain_factor (e : Expr) (ts : List Located) : chain .factor e ts = .done e ts :=
  chain_of_stops (Prec.stops_factor ts) e

/-- An expression of a level is an operand of its chain and what the chain goes on with. -/
theorem phrase_eq_bind (p : Prec) (ts : List Located) :
    phrase p ts = (phrase p.operand ts).bind (chain p) := by
  cases p with
  | sum => exact phrase_sum ts
  | product => exact phrase_product ts
  | factor =>
    change phrase .factor ts = (phrase .factor ts).bind (chain .factor)
    obtain ⟨outcome, us⟩ := phrase .factor ts
    cases outcome with
    | ok e => exact (chain_factor e us).symm
    | error e => rfl

/-! ## From reading to deriving -/

/-- Induction along the readers of expressions. A factor is read by readers with fewer tokens
ahead, a looser level by its operand and its chain, and a chain by operands and chains with
fewer tokens ahead. -/
theorem phrase_chain_induction {P : Prec → List Located → Prop}
    {C : Prec → Expr → List Located → Prop}
    (factor : ∀ ts, (∀ p us, us.length < ts.length → P p us) → P .factor ts)
    (level : ∀ p ts, P p.operand ts → (∀ left us, us.length ≤ ts.length → C p left us) → P p ts)
    (chain : ∀ p left ts, (∀ us, us.length < ts.length → P p.operand us) →
      (∀ left us, us.length < ts.length → C p left us) → C p left ts) :
    (∀ p ts, P p ts) ∧ ∀ p left ts, C p left ts := by
  have step : ∀ n, (∀ p ts, ts.length < n → P p ts) → ∀ p left ts, ts.length ≤ n → C p left ts := by
    intro n ih p left ts
    induction h : ts.length using Nat.strongRecOn generalizing left ts with
    | ind m ihm =>
      intro hm
      refine chain p left ts (fun us hus => ih _ us (by omega)) fun left us hus => ?_
      exact ihm us.length (by omega) left us rfl (by omega)
  have phrases : ∀ n p ts, ts.length = n → P p ts := by
    intro n
    induction n using Nat.strongRecOn with
    | ind n ih =>
      intro p ts hts
      have hshort : ∀ p us, us.length < n → P p us := fun p us hus => ih _ hus p us rfl
      have hchain : ∀ p left us, us.length ≤ ts.length → C p left us :=
        fun p left us hus => step n hshort p left us (by omega)
      have hfactor : P .factor ts := factor ts (hts ▸ hshort)
      have hproduct : P .product ts := level .product ts hfactor (hchain .product)
      cases p with
      | factor => exact hfactor
      | product => exact hproduct
      | sum => exact level .sum ts hproduct (hchain .sum)
  refine ⟨fun p ts => phrases _ p ts rfl, fun p left ts => ?_⟩
  exact step _ (fun p us _ => phrases _ p us rfl) p left ts (Nat.le_refl _)

/-- The same along the course of a chain : it ends with the tokens or before a token that is no
operator of its level, and goes on behind an operator with the operand that was read. -/
theorem phrase_chain_course {P : Prec → List Located → Prop}
    {C : Prec → Expr → List Located → Prop}
    (factor : ∀ ts, (∀ p us, us.length < ts.length → P p us) → P .factor ts)
    (level : ∀ p ts, P p.operand ts →
      (∀ a us, phrase p.operand ts = .done a us → C p a us) → P p ts)
    (nil : ∀ p left, C p left [])
    (stop : ∀ p left t ts, p.operator? t.token = none → C p left (t :: ts))
    (goOn : ∀ p left t ts op, p.operator? t.token = some op → P p.operand ts →
      (∀ b us, phrase p.operand ts = .done b us → C p (.binary left op b t.line) us) →
      C p left (t :: ts)) :
    (∀ p ts, P p ts) ∧ ∀ p left ts, C p left ts := by
  have hle : ∀ {p ts a us}, phrase p ts = .done a us → us.length ≤ ts.length := by
    intro p ts a us h
    have := length_ahead_phrase_le p ts
    rwa [h] at this
  refine phrase_chain_induction factor
    (fun p ts hp hc => level p ts hp fun a us h => hc a us (hle h)) fun p left ts hp hc => ?_
  cases ts with
  | nil => exact nil p left
  | cons t ts =>
    cases hop : p.operator? t.token with
    | none => exact stop p left t ts hop
    | some op =>
      refine goOn p left t ts op hop (hp ts (by simp)) fun b us h => hc _ us ?_
      exact Nat.lt_succ_of_le (hle h)

theorem Derives.of_operand {p : Prec} {u : List Located} {a : Expr} (h : Derives p.operand u a) :
    Derives p u a := by
  cases p with
  | sum => exact .product h
  | product => exact .factor h
  | factor => exact h

/-- The rules for `+`, `-` and `*` as one. -/
theorem Derives.binary {p : Prec} {t : Located} {op : Operator} {u v : List Located} {a b : Expr}
    (h : p.operator? t.token = some op) (ha : Derives p u a) (hb : Derives p.operand v b) :
    Derives p (u ++ t :: v) (.binary a op b t.line) := by
  obtain ⟨token, line⟩ := t
  cases p <;> cases token <;> cases h
  · exact .add ha hb
  · exact .sub ha hb
  · exact .mul ha hb

/-- What was read at a level is derived there, and the level stops before what is ahead. -/
def PhraseSound (p : Prec) (ts : List Located) : Prop :=
  ∀ e us, phrase p ts = .done e us → ∃ w, ts = w ++ us ∧ Derives p w e ∧ p.Stops us

/-- A chain that goes on after a derived left part stays derived, and its level stops before
what is ahead. -/
def ChainSound (p : Prec) (left : Expr) (ts : List Located) : Prop :=
  ∀ e us v, chain p left ts = .done e us → p.operand.Stops ts → Derives p v left →
    ∃ w, ts = w ++ us ∧ Derives p (v ++ w) e ∧ p.Stops us

theorem phraseSound_factor {ts : List Located}
    (ih : ∀ p us, us.length < ts.length → PhraseSound p us) : PhraseSound .factor ts := by
  intro e us h
  cases ts with
  | nil => simp [phrase_factor_nil] at h
  | cons t ts =>
    obtain ⟨token, line⟩ := t
    rw [phrase_factor_cons] at h
    have hstops := Prec.stops_factor us
    cases token with
    | plus =>
      obtain ⟨a, ha, rfl⟩ := Reading.map_eq_done_iff.1 h
      obtain ⟨w, rfl, hw, -⟩ := ih .factor ts (by simp) a us ha
      exact ⟨_, rfl, .plus hw, hstops⟩
    | minus =>
      obtain ⟨a, ha, rfl⟩ := Reading.map_eq_done_iff.1 h
      obtain ⟨w, rfl, hw, -⟩ := ih .factor ts (by simp) a us ha
      exact ⟨_, rfl, .minus hw, hstops⟩
    | leftParen =>
      obtain ⟨a, vs, ha, hr⟩ := Reading.bind_eq_done_iff.1 h
      obtain ⟨t, ht, rfl⟩ := Reading.map_eq_done_iff.1 hr
      obtain ⟨rfl, hk⟩ := expect_eq_done_iff.1 ht
      obtain ⟨w, rfl, hw, -⟩ := ih .sum ts (by simp) a _ ha
      obtain ⟨token, m⟩ := t
      obtain rfl : token = .rightParen := Token.eq_of_kind hk (by decide)
      exact ⟨⟨.leftParen, line⟩ :: w ++ [⟨.rightParen, m⟩], by simp, .group hw, hstops⟩
    | integer v =>
      cases h
      exact ⟨_, rfl, .number, hstops⟩
    | ident name =>
      cases h
      exact ⟨_, rfl, .var, hstops⟩
    | _ => simp at h

theorem phraseSound_of_operand {p : Prec} {ts : List Located} (hp : PhraseSound p.operand ts)
    (hc : ∀ left us, us.length ≤ ts.length → ChainSound p left us) : PhraseSound p ts := by
  intro e us h
  rw [phrase_eq_bind] at h
  obtain ⟨a, vs, ha, he⟩ := Reading.bind_eq_done_iff.1 h
  obtain ⟨v, rfl, hv, hstops⟩ := hp a vs ha
  obtain ⟨w, rfl, hw, hus⟩ := hc a vs (by simp) e us v he hstops hv.of_operand
  exact ⟨v ++ w, by simp, hw, hus⟩

theorem chainSound_step {p : Prec} {left : Expr} {ts : List Located}
    (hp : ∀ us, us.length < ts.length → PhraseSound p.operand us)
    (hc : ∀ left us, us.length < ts.length → ChainSound p left us) : ChainSound p left ts := by
  intro e us v h hts hv
  have hend : ∀ {ts : List Located}, p.operand.Stops ts →
      (∀ t ∈ ts.head?, p.operator? t.token = none) →
      ∃ w, ts = w ++ ts ∧ Derives p (v ++ w) left ∧ p.Stops ts :=
    fun hs hop => ⟨[], rfl, by simpa using hv, Prec.stops_of_operand hs hop⟩
  cases ts with
  | nil =>
    rw [chain_nil] at h
    cases h
    exact hend hts (by simp)
  | cons t ts =>
    rw [chain_cons] at h
    cases hop : p.operator? t.token with
    | none =>
      rw [hop] at h
      cases h
      exact hend hts (by simpa using hop)
    | some op =>
      rw [hop] at h
      obtain ⟨b, vs, hb, he⟩ := Reading.bind_eq_done_iff.1 h
      obtain ⟨x, rfl, hx, hvs⟩ := hp ts (by simp) b vs hb
      have hlt : vs.length < (t :: (x ++ vs)).length := by
        rw [List.length_cons, List.length_append]
        omega
      obtain ⟨w, rfl, hw, hus⟩ := hc _ vs hlt e us _ he hvs (.binary hop hv hx)
      exact ⟨t :: x ++ w, by simp, by simpa using hw, hus⟩

theorem phraseSound (p : Prec) (ts : List Located) : PhraseSound p ts :=
  (phrase_chain_induction (fun _ ih => phraseSound_factor ih)
    (fun _ _ hp hc => phraseSound_of_operand hp hc) fun _ _ _ hp hc => chainSound_step hp hc).1 p ts

/-! ## From deriving to reading -/

/-- One more operator and operand of a chain are read as the grammar joins them. -/
theorem phrase_append_binary {p : Prec} {t : Located} {op : Operator} {u v : List Located}
    {a b : Expr} (h : p.operator? t.token = some op)
    (hu : ∀ rest, p.operand.Stops rest → phrase p (u ++ rest) = chain p a rest)
    (hv : ∀ rest, p.operand.operand.Stops rest →
      phrase p.operand (v ++ rest) = chain p.operand b rest)
    (rest : List Located) (hrest : p.operand.Stops rest) :
    phrase p (u ++ t :: v ++ rest) = chain p (.binary a op b t.line) rest :=
  calc phrase p (u ++ t :: v ++ rest)
      = phrase p (u ++ t :: (v ++ rest)) := by simp
    _ = chain p a (t :: (v ++ rest)) := hu _ (Prec.operand_stops_of_operator? h _)
    _ = (phrase p.operand (v ++ rest)).bind fun right => chain p (.binary a op right t.line) := by
      rw [chain_cons, h]
    _ = (chain p.operand b rest).bind fun right => chain p (.binary a op right t.line) := by
      rw [hv rest hrest.operand]
    _ = chain p (.binary a op b t.line) rest := by
      rw [chain_of_stops hrest, Reading.bind_done]

/-- An operand alone is read as an expression of the level. -/
theorem phrase_append_operand {p : Prec} {u : List Located} {a : Expr}
    (hu : ∀ rest, p.operand.operand.Stops rest →
      phrase p.operand (u ++ rest) = chain p.operand a rest)
    (rest : List Located) (hrest : p.operand.Stops rest) :
    phrase p (u ++ rest) = chain p a rest := by
  rw [phrase_eq_bind, hu rest hrest.operand, chain_of_stops hrest, Reading.bind_done]

/-- After the tokens of an expression the reader stands in the chain of its level, with the
expression as the left part. -/
theorem Derives.phrase_append {p : Prec} {w : List Located} {e : Expr} (h : Derives p w e)
    (rest : List Located) (hrest : p.operand.Stops rest) :
    phrase p (w ++ rest) = chain p e rest := by
  induction h generalizing rest with
  | add _ _ iha ihb => exact phrase_append_binary rfl iha ihb rest hrest
  | sub _ _ iha ihb => exact phrase_append_binary rfl iha ihb rest hrest
  | mul _ _ iha ihb => exact phrase_append_binary rfl iha ihb rest hrest
  | product _ ih => exact phrase_append_operand (p := .sum) ih rest hrest
  | factor _ ih => exact phrase_append_operand (p := .product) ih rest hrest
  | plus _ ih =>
    rw [List.cons_append, phrase_factor_cons]
    simp only [ih rest hrest, chain_factor, Reading.map, Reading.bind_done]
  | minus _ ih =>
    rw [List.cons_append, phrase_factor_cons]
    simp only [ih rest hrest, chain_factor, Reading.map, Reading.bind_done]
  | @group u a l m _ ih =>
    have hclose : ∀ p : Prec, p.Stops (⟨.rightParen, m⟩ :: rest) :=
      fun p => Prec.stops_of_token (by rintro ⟨⟩ <;> rfl) m p rest
    rw [List.append_assoc, List.cons_append, phrase_factor_cons]
    simp only [List.singleton_append, ih _ (hclose _), chain_of_stops (hclose _),
      chain_factor, Reading.bind_done]
    rfl
  | number => rw [List.singleton_append, phrase_factor_cons, chain_factor]
  | var => rw [List.singleton_append, phrase_factor_cons, chain_factor]

/-- An expression of a level is read exactly when the tokens passed over derive it and what
is ahead goes on with no chain of the level. -/
theorem phrase_eq_done_iff {p : Prec} {ts us : List Located} {e : Expr} :
    phrase p ts = .done e us ↔ ∃ w, ts = w ++ us ∧ Derives p w e ∧ p.Stops us := by
  constructor
  · exact phraseSound p ts e us
  · rintro ⟨w, rfl, hw, hus⟩
    rw [hw.phrase_append us hus.operand, chain_of_stops hus]

/-! ## Assignments and programs -/

theorem assignment_eq_done_iff {ts us : List Located} {s : Statement} :
    assignment ts = .done s us ↔ ∃ w, ts = w ++ us ∧ DerivesStatement w s := by
  constructor
  · intro h
    obtain ⟨⟨name, l⟩, ts₁, hname, h⟩ := Reading.bind_eq_done_iff.1 h
    obtain ⟨a, ts₂, hdef, ⟨⟩⟩ := Reading.bind_eq_done_iff.1 h
    obtain ⟨eq, ts₃, heq, hdef⟩ := Reading.bind_eq_done_iff.1 hdef
    obtain ⟨b, ts₄, hexpr, hdef⟩ := Reading.bind_eq_done_iff.1 hdef
    obtain ⟨semi, ts₅, hsemi, ⟨⟩⟩ := Reading.bind_eq_done_iff.1 hdef
    obtain rfl := identifier_eq_done_iff.1 hname
    obtain ⟨rfl, hk⟩ := expect_eq_done_iff.1 heq
    obtain ⟨w, rfl, hw, -⟩ := phrase_eq_done_iff.1 hexpr
    obtain ⟨rfl, hk'⟩ := expect_eq_done_iff.1 hsemi
    obtain ⟨token, m⟩ := eq
    obtain ⟨token', n⟩ := semi
    obtain rfl : token = .assign := Token.eq_of_kind hk (by decide)
    obtain rfl : token' = .semicolon := Token.eq_of_kind hk' (by decide)
    exact ⟨⟨.ident name, l⟩ :: ⟨.assign, m⟩ :: w ++ [⟨.semicolon, n⟩], by simp, .assign hw⟩
  · rintro ⟨w, rfl, @⟨name, u, a, l, m, n, hu⟩⟩
    have hstops : Prec.sum.Stops (⟨.semicolon, n⟩ :: us) :=
      Prec.stops_of_token (by rintro ⟨⟩ <;> rfl) n .sum us
    have hexpr : expression (u ++ ⟨.semicolon, n⟩ :: us) = .done a (⟨.semicolon, n⟩ :: us) :=
      phrase_eq_done_iff.2 ⟨u, rfl, hu, hstops⟩
    have hdef : definition (⟨.assign, m⟩ :: u ++ ⟨.semicolon, n⟩ :: us) = .done a us := by
      simp only [definition, List.cons_append, expect, Located.kind, Token.kind, if_pos,
        Reading.bind_done, hexpr]
    simp only [List.append_assoc, List.cons_append, List.nil_append] at hdef ⊢
    simp only [assignment, identifier, Reading.bind_done, hdef]

theorem statements_cons (t : Located) (ts : List Located) :
    statements (t :: ts) =
      if t.kind = .eof then .done [] ts
      else (assignment (t :: ts)).bind fun s us => (statements us).map (s :: ·) := by
  rw [statements]
  split
  · rfl
  · split <;> rename_i h <;> rw [h] <;> rfl

theorem statements_of_assignment {ts us : List Located} {s : Statement}
    (h : assignment ts = .done s us) : statements ts = (statements us).map (s :: ·) := by
  cases ts with
  | nil => simp [assignment, identifier] at h
  | cons t ts =>
    have hk : t.kind ≠ .eof := by
      intro hk
      obtain ⟨token, l⟩ := t
      obtain rfl : token = .eof := Token.eq_of_kind hk (by decide)
      simp [assignment, identifier] at h
    rw [statements_cons, if_neg hk, h, Reading.bind_done]

/-- A program is read up to the end mark of a derivation. -/
theorem statements_eq_done_iff {ts us : List Located} {p : List Statement} :
    statements ts = .done p us ↔ ∃ w, ts = w ++ us ∧ DerivesProgram w p := by
  constructor
  · intro h
    induction hn : ts.length using Nat.strongRecOn generalizing ts p with
    | ind n ih =>
      cases ts with
      | nil => simp [statements] at h
      | cons t ts =>
        rw [statements_cons] at h
        split at h
        · next hk =>
          cases h
          obtain ⟨token, l⟩ := t
          obtain rfl : token = .eof := Token.eq_of_kind hk (by decide)
          exact ⟨[⟨.eof, l⟩], rfl, .done⟩
        · obtain ⟨s, vs, hs, h⟩ := Reading.bind_eq_done_iff.1 h
          obtain ⟨q, hq, rfl⟩ := Reading.map_eq_done_iff.1 h
          have hlt := length_ahead_assignment_lt hs
          obtain ⟨w, hw, hsw⟩ := assignment_eq_done_iff.1 hs
          obtain ⟨v, rfl, hv⟩ := ih vs.length (hn ▸ hlt) hq rfl
          exact ⟨w ++ v, by rw [hw, List.append_assoc], .step hsw hv⟩
  · rintro ⟨w, rfl, hw⟩
    induction hw with
    | done => exact statements_cons _ _
    | @step u v s p hs _ ih =>
      have ha : assignment (u ++ (v ++ us)) = .done s (v ++ us) :=
        assignment_eq_done_iff.2 ⟨u, rfl, hs⟩
      rw [List.append_assoc, statements_of_assignment ha, ih]
      rfl

theorem parse_eq_ok_iff_statements {ts : List Located} {p : List Statement} :
    parse ts = .ok p ↔ ∃ us, statements ts = .done p us := by
  unfold parse
  obtain ⟨outcome, us⟩ := statements ts
  cases outcome with
  | ok q => simp
  | error e =>
    obtain ⟨line, cause⟩ := e
    cases cause <;> simp

/-- A derived program is read whatever follows its end mark. -/
theorem DerivesProgram.parse_append {w : List Located} {p : List Statement}
    (h : DerivesProgram w p) (rest : List Located) : parse (w ++ rest) = .ok p :=
  parse_eq_ok_iff_statements.2 ⟨rest, statements_eq_done_iff.2 ⟨w, rfl, h⟩⟩

/-- No expression holds an end mark or blank space. -/
theorem Derives.token_ne {p : Prec} {w : List Located} {e : Expr} (h : Derives p w e) :
    ∀ t ∈ w, t.token ≠ .eof ∧ t.token ≠ .blank := by
  induction h with
  | product _ ih => exact ih
  | factor _ ih => exact ih
  | _ => grind

/-- The end mark of a derived program is its last token and the only one. -/
theorem DerivesProgram.exists_eof {w : List Located} {p : List Statement}
    (h : DerivesProgram w p) :
    ∃ pre l, w = pre ++ [⟨.eof, l⟩] ∧ ∀ t ∈ pre, t.token ≠ .eof := by
  induction h with
  | @done l => exact ⟨[], l, rfl, by simp⟩
  | @step u v s p hs _ ih =>
    obtain ⟨pre, l, rfl, hpre⟩ := ih
    refine ⟨u ++ pre, l, by simp, ?_⟩
    obtain ⟨hu⟩ := hs
    have := hu.token_ne
    grind

/-- Programs are read exactly as the grammar derives them : the tokens up to the first end
mark derive the program, and what follows the mark is not looked at. So every row of tokens
derives one program at most. -/
theorem parse_iff_derivesProgram :
    (∀ (ts : List Located) (p : List Statement), parse ts = .ok p ↔
      ∃ pre l post, ts = pre ++ ⟨.eof, l⟩ :: post ∧ (∀ t ∈ pre, t.token ≠ .eof) ∧
        DerivesProgram (pre ++ [⟨.eof, l⟩]) p) ∧
    ∀ (ts : List Located) (p q : List Statement),
      DerivesProgram ts p → DerivesProgram ts q → p = q := by
  refine ⟨fun ts p => ⟨fun h => ?_, ?_⟩, fun ts p q hp hq => ?_⟩
  · obtain ⟨post, h⟩ := parse_eq_ok_iff_statements.1 h
    obtain ⟨w, rfl, hw⟩ := statements_eq_done_iff.1 h
    obtain ⟨pre, l, rfl, hpre⟩ := hw.exists_eof
    exact ⟨pre, l, post, by simp, hpre, hw⟩
  · rintro ⟨pre, l, post, rfl, -, h⟩
    simpa using h.parse_append post
  · have := (hp.parse_append []).symm.trans (hq.parse_append [])
    exact Except.ok.inj this

/-- The tokens of `x = 8 - 2 * y - 3;`. -/
def chainRow : List Located :=
  [⟨.ident "x", 1⟩, ⟨.assign, 1⟩, ⟨.integer 8, 2⟩, ⟨.minus, 3⟩, ⟨.integer 2, 4⟩, ⟨.times, 5⟩,
    ⟨.ident "y", 6⟩, ⟨.minus, 7⟩, ⟨.integer 3, 8⟩, ⟨.semicolon, 9⟩, ⟨.eof, 9⟩]

/-- The chain groups to the left and not to the right, and the token after its end mark is
not looked at. -/
theorem parse_chainRow :
    parse (chainRow ++ [⟨.plus, 10⟩]) = .ok [⟨"x", .binary (.binary (.number 8 2) .sub
      (.binary (.number 2 4) .mul (.var "y" 6) 5) 3) .sub (.number 3 8) 7, 1⟩] ∧
    ¬ DerivesProgram chainRow [⟨"x", .binary (.number 8 2) .sub (.binary
      (.binary (.number 2 4) .mul (.var "y" 6) 5) .sub (.number 3 8) 7) 3, 1⟩] := by
  obtain ⟨hparse, hunique⟩ := parse_iff_derivesProgram
  have hproduct : Derives .product [⟨.integer 2, 4⟩, ⟨.times, 5⟩, ⟨.ident "y", 6⟩]
      (.binary (.number 2 4) .mul (.var "y" 6) 5) :=
    .mul (u := [⟨.integer 2, 4⟩]) (.factor .number) .var
  have hleft := Derives.sub (l := 3) (.product (.factor (.number (v := 8) (l := 2)))) hproduct
  have hsum := Derives.sub (l := 7) hleft (.factor (.number (v := 3) (l := 8)))
  have hassign : DerivesStatement _ ⟨"x", _, 1⟩ := .assign (m := 1) (n := 9) hsum
  have hrow : DerivesProgram chainRow _ := .step hassign (.done (l := 9))
  refine ⟨(hparse _ _).2 ⟨chainRow.dropLast, 9, _, rfl, by decide, hrow⟩, fun h => ?_⟩
  have hsame := hunique _ _ _ hrow h
  simp at hsame

end Reckoner
