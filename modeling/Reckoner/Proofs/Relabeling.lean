import Reckoner.Interpretation
import Reckoner.Proofs.Derivation
import Reckoner.Proofs.Running
import Reckoner.Proofs.Scanning

/-!
# Lines and names as labels

Lines are only carried along, and a name counts by its key alone. A relabeling (`Relabeling`)
changes the lines and the spellings of names in tokens, trees and errors.

Readers hand lines and names on to what they build and to their errors, and do nothing else
with them, so relabeled tokens are read as the relabeled program (`parse_relabel`).

A run compares keys with each other, and does nothing else with names. So the keys of a store can
be changed, if different ones stay apart (`Rekeying`). A program that is relabeled in the same way
(`Relabeling.Follows`) runs as before : it assigns the same values and leaves the store with its
keys changed, and its assignments and its error are relabeled (`Store.run_rekey`). If a relabeling
keeps the keys (`Relabeling.KeepsKeys`), the same store is left (`Store.run_relabel`). Then two
texts whose tokens, or whose errors, agree under the relabeling give the same report, or errors
that agree under it (`evaluate_cases_of_scanRelabeled_eq`).

Only the error at the end of the tokens has no line to change as long as the reader is at its
cursor (`Error.relabelAhead`). A program that is read whole gives it the line of the last token,
and then it is relabeled like the others.
-/

namespace Reckoner

/-- A change of lines and of the spelling of names. -/
structure Relabeling where
  line : Nat → Nat
  name : String → String

/-- Names stay names of the same variables. -/
def Relabeling.KeepsKeys (ρ : Relabeling) : Prop :=
  ∀ name, key (ρ.name name) = key name

variable (ρ : Relabeling)

/-- The token with its name relabeled, if it is one. -/
def Token.relabel : Token → Token
  | .ident name => .ident (ρ.name name)
  | t => t

/-- The relabeled token. -/
def Located.relabel (t : Located) : Located :=
  ⟨t.token.relabel ρ, ρ.line t.line⟩

/-- The cause with its variable relabeled, if it speaks of one. -/
def Cause.relabel : Cause → Cause
  | .unknownVariable name => .unknownVariable (ρ.name name)
  | cause => cause

/-- The relabeled error. -/
def Error.relabel (e : Error) : Error :=
  ⟨ρ.line e.line, e.cause.relabel ρ⟩

/-- The expression with all nodes relabeled. -/
def Expr.relabel : Expr → Expr
  | .number value line => .number value (ρ.line line)
  | .var name line => .var (ρ.name name) (ρ.line line)
  | .signed sign operand line => .signed sign operand.relabel (ρ.line line)
  | .binary left op right line => .binary left.relabel op right.relabel (ρ.line line)

/-- The relabeled statement. -/
def Statement.relabel (s : Statement) : Statement :=
  ⟨ρ.name s.name, s.value.relabel ρ, ρ.line s.line⟩

/-- The relabeled assignment. -/
def Assignment.relabel (a : Assignment) : Assignment :=
  ⟨ρ.name a.name, a.value, ρ.line a.line⟩

/-- The run with its assignments and its error relabeled. -/
def Run.relabel (r : Run) : Run :=
  ⟨r.assigned.map (Assignment.relabel ρ), r.store, r.error?.map (Error.relabel ρ)⟩

/-- The result with its value changed by `g` and its error relabeled. -/
def relabelResult {α β : Type} (g : α → β) : Except Error α → Except Error β
  | .ok a => .ok (g a)
  | .error e => .error (e.relabel ρ)

theorem Located.kind_relabel (t : Located) : (t.relabel ρ).kind = t.kind := by
  obtain ⟨token, line⟩ := t
  cases token <;> rfl

/-! ## Reading relabeled tokens -/

/-- The error of a reader relabeled, if it has a line. -/
def Error.relabelAhead : Error → Error
  | ⟨line, .endOfInput⟩ => ⟨line, .endOfInput⟩
  | e => e.relabel ρ

namespace Reading

variable {α β γ δ : Type}

/-- The reading with its value changed by `g`, and its error and the tokens ahead relabeled. -/
def relabel (g : α → β) : Reading α → Reading β
  | ⟨.ok a, ts⟩ => .done (g a) (ts.map (Located.relabel ρ))
  | ⟨.error e, ts⟩ => .fail (e.relabelAhead ρ) (ts.map (Located.relabel ρ))

variable {ρ} {r : Reading α} {g : α → γ} {g' : β → δ}

theorem relabel_bind {k : α → Reader β} {k' : γ → Reader δ}
    (h : ∀ a us, r = .done a us →
      k' (g a) (us.map (Located.relabel ρ)) = (k a us).relabel ρ g') :
    (r.relabel ρ g).bind k' = (r.bind k).relabel ρ g' := by
  obtain ⟨outcome, us⟩ := r
  cases outcome with
  | ok a => exact h a us rfl
  | error e => rfl

theorem relabel_map {k : α → β} {k' : γ → δ} (h : ∀ a, k' (g a) = g' (k a)) :
    (r.relabel ρ g).map k' = (r.map k).relabel ρ g' :=
  relabel_bind fun a us _ => by rw [h]; rfl

end Reading

theorem expect_relabel (kind : Kind) (ts : List Located) :
    expect kind (ts.map (Located.relabel ρ)) = (expect kind ts).relabel ρ (Located.relabel ρ) := by
  cases ts with
  | nil => rfl
  | cons t ts =>
    rw [List.map_cons, expect, expect, t.kind_relabel ρ]
    by_cases hk : t.kind = kind
    · rw [if_pos hk, if_pos hk]
      rfl
    · rw [if_neg hk, if_neg hk]
      rfl

theorem identifier_relabel (ts : List Located) :
    identifier (ts.map (Located.relabel ρ)) =
      (identifier ts).relabel ρ fun n => (ρ.name n.1, ρ.line n.2) := by
  cases ts with
  | nil => rfl
  | cons t ts =>
    obtain ⟨token, line⟩ := t
    cases token <;> rfl

theorem phrase_factor_relabel {ts : List Located}
    (ih : ∀ p us, us.length < ts.length → phrase p (us.map (Located.relabel ρ)) =
      (phrase p us).relabel ρ (Expr.relabel ρ)) :
    phrase .factor (ts.map (Located.relabel ρ)) =
      (phrase .factor ts).relabel ρ (Expr.relabel ρ) := by
  cases ts with
  | nil =>
    rw [List.map_nil, phrase_factor_nil]
    rfl
  | cons t ts =>
    obtain ⟨token, line⟩ := t
    rw [List.map_cons, phrase_factor_cons, phrase_factor_cons]
    cases token with
    | plus =>
      simp only [Located.relabel, Token.relabel, ih .factor ts (by simp)]
      exact Reading.relabel_map fun _ => rfl
    | minus =>
      simp only [Located.relabel, Token.relabel, ih .factor ts (by simp)]
      exact Reading.relabel_map fun _ => rfl
    | leftParen =>
      simp only [Located.relabel, Token.relabel, ih .sum ts (by simp)]
      refine Reading.relabel_bind fun a us _ => ?_
      rw [expect_relabel]
      exact Reading.relabel_map fun _ => rfl
    | _ => rfl

theorem Prec.operator?_relabel (p : Prec) (t : Token) :
    p.operator? (t.relabel ρ) = p.operator? t := by
  cases p <;> cases t <;> rfl

theorem phrase_chain_relabel :
    (∀ p ts, phrase p (ts.map (Located.relabel ρ)) = (phrase p ts).relabel ρ (Expr.relabel ρ)) ∧
      ∀ p left ts, chain p (left.relabel ρ) (ts.map (Located.relabel ρ)) =
        (chain p left ts).relabel ρ (Expr.relabel ρ) := by
  refine phrase_chain_course (fun ts ih => phrase_factor_relabel ρ ih) (fun p ts hp hc => ?_)
    (fun p left => ?_) (fun p left t ts hop => ?_) fun p left t ts op hop hp hc => ?_
  · rw [phrase_eq_bind, phrase_eq_bind p ts, hp]
    exact Reading.relabel_bind hc
  · rw [List.map_nil, chain_nil, chain_nil]
    rfl
  · rw [List.map_cons, chain_cons, chain_cons]
    simp only [Located.relabel, Prec.operator?_relabel, hop]
    rfl
  · rw [List.map_cons, chain_cons, chain_cons]
    simp only [Located.relabel, Prec.operator?_relabel, hop]
    rw [hp]
    exact Reading.relabel_bind hc

theorem expression_relabel (ts : List Located) :
    expression (ts.map (Located.relabel ρ)) = (expression ts).relabel ρ (Expr.relabel ρ) :=
  (phrase_chain_relabel ρ).1 .sum ts

theorem definition_relabel (ts : List Located) :
    definition (ts.map (Located.relabel ρ)) = (definition ts).relabel ρ (Expr.relabel ρ) := by
  unfold definition
  rw [expect_relabel]
  refine Reading.relabel_bind fun _ us _ => ?_
  rw [expression_relabel]
  refine Reading.relabel_bind fun _ vs _ => ?_
  rw [expect_relabel]
  exact Reading.relabel_bind fun _ _ _ => rfl

theorem assignment_relabel (ts : List Located) :
    assignment (ts.map (Located.relabel ρ)) =
      (assignment ts).relabel ρ (Statement.relabel ρ) := by
  unfold assignment
  rw [identifier_relabel]
  refine Reading.relabel_bind fun _ us _ => ?_
  rw [definition_relabel]
  exact Reading.relabel_bind fun _ _ _ => rfl

theorem statements_relabel (ts : List Located) :
    statements (ts.map (Located.relabel ρ)) =
      (statements ts).relabel ρ (List.map (Statement.relabel ρ)) := by
  induction hn : ts.length using Nat.strongRecOn generalizing ts with
  | ind n ih =>
    cases ts with
    | nil =>
      rw [List.map_nil, statements]
      rfl
    | cons t ts =>
      rw [List.map_cons, statements_cons, statements_cons, t.kind_relabel ρ]
      by_cases hk : t.kind = .eof
      · rw [if_pos hk, if_pos hk]
        rfl
      · rw [if_neg hk, if_neg hk, ← List.map_cons, assignment_relabel]
        refine Reading.relabel_bind fun s us hs => ?_
        rw [ih us.length (hn ▸ length_ahead_assignment_lt hs) us rfl]
        exact Reading.relabel_map fun _ => rfl

theorem lastLine_relabel {ts : List Located} (h : ts ≠ []) :
    lastLine (ts.map (Located.relabel ρ)) = ρ.line (lastLine ts) := by
  simp [lastLine, List.getLast?_eq_some_getLast h, Located.relabel]

/-- A program is read with the lines and names that its tokens have. -/
theorem parse_relabel {ts : List Located} (h : ts ≠ []) :
    parse (ts.map (Located.relabel ρ)) =
      relabelResult ρ (List.map (Statement.relabel ρ)) (parse ts) := by
  unfold parse
  rw [statements_relabel, lastLine_relabel ρ h]
  cases statements ts with
  | mk outcome us =>
    cases outcome with
    | ok p => rfl
    | error e =>
      obtain ⟨line, cause⟩ := e
      cases cause <;> rfl

/-! ## Other keys in a store -/

/-- A change of keys that keeps the known ones apart. -/
structure Rekeying where
  apply : String → String
  Known : String → Prop
  apart : ∀ k l, Known k → Known l → apply k = apply l → k = l

namespace Rekeying

/-- All keys are known and stay as they are. -/
def refl : Rekeying :=
  ⟨id, fun _ => True, fun _ _ _ _ h => h⟩

theorem apply_eq_apply_iff (g : Rekeying) {k l : String} (hk : g.Known k) (hl : g.Known l) :
    g.apply k = g.apply l ↔ k = l :=
  ⟨g.apart k l hk hl, congrArg g.apply⟩

/-- The entries under their new keys. -/
def onEntries (g : Rekeying) (es : List (String × Int)) : List (String × Int) :=
  es.map fun e => (g.apply e.1, e.2)

theorem onEntries_cons (g : Rekeying) (e : String × Int) (rest : List (String × Int)) :
    g.onEntries (e :: rest) = (g.apply e.1, e.2) :: g.onEntries rest :=
  rfl

variable {g : Rekeying} {k : String} {es : List (String × Int)}

theorem lookup_onEntries (hk : g.Known k) (h : ∀ n ∈ es.map Prod.fst, g.Known n) :
    (g.onEntries es).lookup (g.apply k) = es.lookup k := by
  induction es with
  | nil => rfl
  | cons e rest ih =>
    rw [List.map_cons, List.forall_mem_cons] at h
    rw [onEntries_cons, Store.lookup_entry, Store.lookup_entry, ih h.2]
    simp only [g.apply_eq_apply_iff hk h.1]

theorem put_onEntries (hk : g.Known k) (v : Int) (h : ∀ n ∈ es.map Prod.fst, g.Known n) :
    Store.put (g.apply k) v (g.onEntries es) = g.onEntries (Store.put k v es) := by
  induction es with
  | nil => rfl
  | cons e rest ih =>
    rw [List.map_cons, List.forall_mem_cons] at h
    rw [onEntries_cons, Store.put, Store.put, ih h.2]
    by_cases he : e.1 = k
    · rw [if_pos he, if_pos (congrArg g.apply he), onEntries_cons]
    · rw [if_neg he, if_neg (mt (g.apply_eq_apply_iff h.1 hk).1 he), onEntries_cons]

end Rekeying

/-- The store with its variables under their new keys. -/
def Store.rekey (g : Rekeying) (s : Store) : Store :=
  ⟨g.onEntries s.entries⟩

/-- The run with the variables that it leaves under their new keys. -/
def Run.rekey (g : Rekeying) (r : Run) : Run :=
  { r with store := r.store.rekey g }

theorem Store.rekey_refl (s : Store) : s.rekey .refl = s :=
  congrArg Store.mk (List.map_id s.entries)

/-! ## Running a relabeled program -/

/-- The names that a program assigns and reads, spelled as written. -/
def namesIn (p : List Statement) : List String :=
  p.flatMap fun st => st.name :: st.value.reads.map Prod.fst

theorem forall_namesIn_cons_iff {P : String → Prop} {st : Statement} {p : List Statement} :
    (∀ a ∈ namesIn (st :: p), P a) ↔
      P st.name ∧ (∀ r ∈ st.value.reads, P r.1) ∧ ∀ a ∈ namesIn p, P a := by
  simp only [namesIn, List.flatMap_cons, List.forall_mem_append, List.forall_mem_cons,
    List.forall_mem_map, and_assoc]

/-- The variable called `name` is known, and relabeling its name changes its key as `g` does. -/
structure Relabeling.Follows (g : Rekeying) (name : String) : Prop where
  known : g.Known (key name)
  key_name : key (ρ.name name) = g.apply (key name)

theorem Relabeling.KeepsKeys.follows {ρ : Relabeling} (h : ρ.KeepsKeys) (name : String) :
    ρ.Follows .refl name :=
  ⟨trivial, h name⟩

namespace Store

variable {ρ} {g : Rekeying} {s : Store} (hs : ∀ n ∈ s.names, g.Known n)
include hs

theorem get?_rekey {name : String} (h : ρ.Follows g name) :
    (s.rekey g).get? (ρ.name name) = s.get? name := by
  rw [get?, h.key_name]
  exact Rekeying.lookup_onEntries h.known hs

theorem bind_rekey {name : String} (h : ρ.Follows g name) (v : Int) :
    (s.rekey g).bind (ρ.name name) v = (s.bind name v).rekey g := by
  rw [bind, h.key_name]
  exact congrArg Store.mk (Rekeying.put_onEntries h.known v hs)

theorem eval_rekey {e : Expr} (h : ∀ r ∈ e.reads, ρ.Follows g r.1) :
    (s.rekey g).eval (e.relabel ρ) = (s.eval e).mapError (Error.relabel ρ) := by
  induction e with
  | number value line => rfl
  | var name line =>
    have hname : ρ.Follows g name := h (name, line) (by simp [Expr.reads])
    simp only [Expr.relabel, eval_var, value, valueBy, get?_rekey hs hname]
    cases s.get? name <;> rfl
  | signed sign operand line ih =>
    rw [Expr.relabel, eval_signed, eval_signed, ih h]
    cases s.eval operand <;> rfl
  | binary left op right line ihl ihr =>
    rw [Expr.reads, List.forall_mem_append] at h
    rw [Expr.relabel, eval_binary, eval_binary, ihl h.1, ihr h.2]
    cases s.eval left with
    | error e => rfl
    | ok a => cases s.eval right <;> rfl

/-- A relabeled program does the same to a store with other keys, if it follows the change of the
keys. -/
theorem run_rekey {p : List Statement} (hp : ∀ a ∈ namesIn p, ρ.Follows g a) :
    (s.rekey g).run (p.map (Statement.relabel ρ)) = ((s.run p).relabel ρ).rekey g := by
  induction p generalizing s with
  | nil => rfl
  | cons st p ih =>
    obtain ⟨hname, hreads, hrest⟩ := forall_namesIn_cons_iff.1 hp
    have heval := eval_rekey hs hreads
    cases hv : s.eval st.value with
    | error e =>
      rw [hv] at heval
      rw [List.map_cons, run_cons_of_error hv, run_cons_of_error heval]
      rfl
    | ok v =>
      rw [hv] at heval
      have hbind : ∀ n ∈ (s.bind st.name v).names, g.Known n := by
        intro n hn
        rcases mem_names_bind.1 hn with hn | rfl
        · exact hs n hn
        · exact hname.known
      rw [List.map_cons, run_cons_of_ok hv, run_cons_of_ok heval]
      simp only [Statement.relabel, bind_rekey hs hname, ih hbind hrest]
      rfl

end Store

/-- A relabeled program does the same to a store, if the relabeling keeps the keys. -/
theorem Store.run_relabel {ρ : Relabeling} (h : ρ.KeepsKeys) (s : Store) (p : List Statement) :
    s.run (p.map (Statement.relabel ρ)) = (s.run p).relabel ρ := by
  have hrun := run_rekey (s := s) (fun _ _ => trivial) (p := p) fun a _ => h.follows a
  rwa [rekey_refl, Run.rekey, rekey_refl] at hrun

/-! ## The whole text -/

/-- The relabeled tokens of a text, or its relabeled error. -/
def scanRelabeled (line : Nat) (cs : List Char) : Except Error (List Located) :=
  relabelResult ρ (List.map (Located.relabel ρ)) (scan line cs)

theorem scanRelabeled_lexeme (line : Nat) {l after : List Char} {t : Token} (h : Lexeme l t)
    (ha : Ends t after) : scanRelabeled ρ line (l ++ after) =
      (scanRelabeled ρ line after).map (Located.relabel ρ ⟨t, line⟩ :: ·) := by
  rw [scanRelabeled, scanRelabeled, scan_lexeme line h ha]
  cases scan line after <;> rfl

variable {ρ}

theorem result_relabel (r : Run) : (r.relabel ρ).result = relabelResult ρ id r.result := by
  obtain ⟨assigned, store, error?⟩ := r
  cases error? <;> rfl

/-- Where a relabeling keeps the keys, relabeling a result and relabeling the tokens that it
comes from are the same. -/
theorem relabelResult_evaluate (h : ρ.KeepsKeys) (source : String) :
    relabelResult ρ id (evaluate source) =
      scanRelabeled ρ 1 source.toList >>= fun tokens => parse tokens >>= fun program =>
        (Store.empty.run program).result := by
  rw [evaluate, tokenize, scanRelabeled]
  cases hts : scan 1 source.toList with
  | error e => rfl
  | ok ts =>
    change relabelResult ρ id (parse ts >>= _) = parse (ts.map (Located.relabel ρ)) >>= _
    rw [parse_relabel ρ (ne_nil_of_scan hts)]
    cases parse ts with
    | error e => rfl
    | ok p =>
      change relabelResult ρ id (Store.empty.run p).result =
        (Store.empty.run (p.map (Statement.relabel ρ))).result
      rw [Store.run_relabel h, result_relabel]

/-- Texts that scan to the same tokens or the same error, up to a relabeling that keeps the keys,
give the same report, or they fail with errors that are the same up to the relabeling. -/
theorem evaluate_cases_of_scanRelabeled_eq (h : ρ.KeepsKeys) {s s' : String}
    (hscan : scanRelabeled ρ 1 s.toList = scanRelabeled ρ 1 s'.toList) :
    interpret s = interpret s' ∧
      ((∃ r, evaluate s = .ok r ∧ evaluate s' = .ok r) ∨
        ∃ e e', evaluate s = .error e ∧ evaluate s' = .error e' ∧ e.relabel ρ = e'.relabel ρ) := by
  have hresult : relabelResult ρ id (evaluate s) = relabelResult ρ id (evaluate s') := by
    rw [relabelResult_evaluate h, relabelResult_evaluate h, hscan]
  unfold interpret
  generalize evaluate s = x, evaluate s' = y at hresult
  cases x with
  | ok r =>
    cases y with
    | ok r' =>
      obtain rfl : r = r' := Except.ok.inj hresult
      exact ⟨rfl, .inl ⟨r, rfl, rfl⟩⟩
    | error e' => cases hresult
  | error e =>
    cases y with
    | ok r' => cases hresult
    | error e' => exact ⟨rfl, .inr ⟨e, e', rfl, rfl, Except.error.inj hresult⟩⟩

end Reckoner
