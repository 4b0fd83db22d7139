import Reckoner.Proofs.Derivation

/-!
# Readers look one token ahead

Where a reader stops before a token, it has passed over the tokens before it and has seen
nothing behind it (`LocalAt`) : with other tokens behind that one it would have done the same,
whether it succeeded or failed. This holds of the basic readers and is kept by reading one
thing after another (`LocalAt.bind`), so it holds of expressions, assignments and programs.
-/

namespace Reckoner

variable {α β : Type} {ts : List Located}

/-- Started at `ts`, the reader does not look behind the first token that it leaves ahead. -/
def LocalAt (r : Reader α) (ts : List Located) : Prop :=
  ∀ o t us, r ts = ⟨o, t :: us⟩ → ∃ w, ts = w ++ t :: us ∧ ∀ vs, r (w ++ t :: vs) = ⟨o, t :: vs⟩

namespace LocalAt

/-- What a reader leaves ahead is the end of what was there. -/
theorem exists_append {r : Reader α} (h : LocalAt r ts) {o : Except Error α} {us : List Located}
    (hr : r ts = ⟨o, us⟩) : ∃ w, ts = w ++ us := by
  cases us with
  | nil => exact ⟨ts, by simp⟩
  | cons t us =>
    obtain ⟨w, hw, -⟩ := h o t us hr
    exact ⟨w, hw⟩

theorem of_ahead_eq_nil {r : Reader α} (h : (r ts).ahead = []) : LocalAt r ts := by
  intro o t us hr
  simp [hr] at h

/-- A reader that leaves everything ahead after a look at the first token. -/
theorem of_stays {r : Reader α} {o : Except Error α} {t : Located}
    (h : ∀ us, r (t :: us) = ⟨o, t :: us⟩) : LocalAt r (t :: ts) := by
  intro o' t' us hr
  rw [h] at hr
  cases hr
  exact ⟨[], rfl, h⟩

/-- A reader that goes on as `r'` behind the first token. -/
theorem of_cons {r : Reader α} {t : Located} (r' : Reader α) (h : ∀ us, r (t :: us) = r' us)
    (hr' : LocalAt r' ts) : LocalAt r (t :: ts) := by
  intro o t' us hr
  rw [h] at hr
  obtain ⟨w, rfl, hw⟩ := hr' o t' us hr
  exact ⟨t :: w, rfl, fun vs => (h _).trans (hw vs)⟩

/-- A reader that does the same as `r'` before a given first token. -/
theorem of_eq_cons {r : Reader α} {t : Located} (r' : Reader α)
    (h : ∀ us, r (t :: us) = r' (t :: us)) (hr' : LocalAt r' (t :: ts)) :
    LocalAt r (t :: ts) := by
  intro o t' us hr
  rw [h] at hr
  obtain ⟨w, hts, hw⟩ := hr' o t' us hr
  refine ⟨w, hts, fun vs => ?_⟩
  cases w with
  | nil =>
    obtain rfl : t = t' := (List.cons.inj hts).1
    exact (h vs).trans (hw vs)
  | cons s w =>
    obtain rfl : t = s := (List.cons.inj hts).1
    exact (h _).trans (hw vs)

theorem done (a : α) (ts : List Located) : LocalAt (Reading.done a) ts := by
  intro o t us h
  cases h
  exact ⟨[], rfl, fun _ => rfl⟩

/-- Reading on where a reader stopped looks no further than the second reader does. -/
theorem bind {r : Reader α} {f : α → Reader β} (hr : LocalAt r ts)
    (hf : ∀ a us, r ts = .done a us → LocalAt (f a) us) :
    LocalAt (fun ts => (r ts).bind f) ts := by
  intro o t us h
  cases hrts : r ts with
  | mk outcome rest =>
    simp only [hrts] at h
    cases outcome with
    | error e =>
      rw [Reading.bind_fail] at h
      cases h
      obtain ⟨w, rfl, hw⟩ := hr _ t us hrts
      exact ⟨w, rfl, fun vs => by simp only [hw vs, Reading.bind_fail]⟩
    | ok a =>
      rw [Reading.bind_done] at h
      obtain ⟨x, rfl, hx⟩ := hf a rest hrts o t us h
      -- What the first reader saw of the rest is its first token, in `x` or `t` itself.
      cases x with
      | nil =>
        obtain ⟨w, rfl, hw⟩ := hr _ t us hrts
        refine ⟨w, rfl, fun vs => ?_⟩
        simp only [hw, Reading.bind_done]
        exact hx vs
      | cons s x =>
        obtain ⟨w, rfl, hw⟩ := hr _ s _ hrts
        refine ⟨w ++ s :: x, by simp, fun vs => ?_⟩
        simp only [List.append_assoc, List.cons_append, hw, Reading.bind_done]
        exact hx vs

theorem map {r : Reader α} (f : α → β) (hr : LocalAt r ts) :
    LocalAt (fun ts => (r ts).map f) ts :=
  bind hr fun a us _ => done (f a) us

end LocalAt

/-! ## The readers -/

theorem localAt_expect (kind : Kind) (ts : List Located) : LocalAt (expect kind) ts := by
  cases ts with
  | nil => exact .of_ahead_eq_nil rfl
  | cons t ts =>
    by_cases hk : t.kind = kind
    · exact .of_cons _ (fun us => by rw [expect, if_pos hk]) (.done t ts)
    · exact .of_stays fun us => by rw [expect, if_neg hk]

theorem localAt_identifier (ts : List Located) : LocalAt identifier ts := by
  cases ts with
  | nil => exact .of_ahead_eq_nil rfl
  | cons t ts =>
    obtain ⟨token, line⟩ := t
    cases token with
    | ident name => exact .of_cons _ (fun _ => rfl) (.done (name, line) ts)
    | _ => exact .of_stays fun _ => rfl

theorem localAt_factor (ih : ∀ p us, us.length < ts.length → LocalAt (phrase p) us) :
    LocalAt (phrase .factor) ts := by
  cases ts with
  | nil => exact .of_ahead_eq_nil (by rw [phrase_factor_nil])
  | cons t ts =>
    obtain ⟨token, line⟩ := t
    have hfactor : LocalAt (phrase .factor) ts := ih .factor ts (by simp)
    cases token with
    | plus => exact .of_cons _ (fun us => by rw [phrase_factor_cons]) (hfactor.map _)
    | minus => exact .of_cons _ (fun us => by rw [phrase_factor_cons]) (hfactor.map _)
    | integer value =>
      exact .of_cons _ (fun us => by rw [phrase_factor_cons]) (.done (.number value line) ts)
    | ident name =>
      exact .of_cons _ (fun us => by rw [phrase_factor_cons]) (.done (.var name line) ts)
    | leftParen =>
      refine .of_cons _ (fun us => by rw [phrase_factor_cons]) ?_
      exact .bind (ih .sum ts (by simp)) fun a us _ => (localAt_expect .rightParen us).map _
    | _ => exact .of_stays fun us => by rw [phrase_factor_cons]

theorem localAt_phrase_chain : (∀ p ts, LocalAt (phrase p) ts) ∧
    ∀ p left ts, LocalAt (chain p left) ts := by
  refine phrase_chain_course (fun ts ih => localAt_factor ih) (fun p ts hp hc => ?_)
    (fun p left => .of_ahead_eq_nil (by rw [chain_nil]))
    (fun p left t ts hop => .of_stays fun us => by rw [chain_cons, hop])
    fun p left t ts op hop hp hc => ?_
  · rw [funext (phrase_eq_bind p)]
    exact .bind hp hc
  · exact .of_cons _ (fun us => by rw [chain_cons, hop]) (.bind hp hc)

theorem localAt_phrase (p : Prec) (ts : List Located) : LocalAt (phrase p) ts :=
  localAt_phrase_chain.1 p ts

theorem localAt_definition (ts : List Located) : LocalAt definition ts :=
  .bind (localAt_expect .assign ts) fun _ us _ =>
    .bind (localAt_phrase .sum us) fun _ vs _ => (localAt_expect .semicolon vs).map _

theorem localAt_assignment (ts : List Located) : LocalAt assignment ts :=
  .bind (localAt_identifier ts) fun _ us _ => (localAt_definition us).map _

/-- Reading a program, the tokens behind the first one left ahead are not seen. -/
theorem localAt_statements (ts : List Located) : LocalAt statements ts := by
  induction hn : ts.length using Nat.strongRecOn generalizing ts with
  | ind n ih =>
    cases ts with
    | nil => exact .of_ahead_eq_nil (by rw [statements])
    | cons t ts =>
      by_cases hk : t.kind = .eof
      · exact .of_cons _ (fun us => by rw [statements_cons, if_pos hk]) (.done [] ts)
      · refine .of_eq_cons (fun ts => (assignment ts).bind fun s us => (statements us).map (s :: ·))
          (fun us => by rw [statements_cons, if_neg hk]) ?_
        refine .bind (localAt_assignment (t :: ts)) fun s us h => ?_
        have hlt := length_ahead_assignment_lt h
        exact (ih us.length (hn ▸ hlt) us rfl).map _

end Reckoner
