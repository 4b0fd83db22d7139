import Reckoner.Error

/-!
# Reading from a row of tokens

A cursor stands before a row of tokens. Reading something there either gives a value or
fails, and in both cases leaves the cursor before the tokens still ahead (`Reading`). A
reading that fails at a token leaves that token ahead, so what was read before it is
lost and the token itself can be looked at again.

The basic readings are `peek`, `expect` and `identifier`. Where no token is left they
fail at the end of the input. No token gives a line there, and the error has line zero.
-/

namespace Reckoner

/-- The outcome of reading something, and the tokens still ahead. -/
structure Reading (α : Type) where
  outcome : Except Error α
  ahead : List Located

namespace Reading

variable {α β : Type}

/-- The value `a`, with the tokens `ts` ahead. -/
abbrev done (a : α) (ts : List Located) : Reading α :=
  ⟨.ok a, ts⟩

/-- A failure, with the tokens `ts` ahead. -/
abbrev fail (e : Error) (ts : List Located) : Reading α :=
  ⟨.error e, ts⟩

/-- Go on reading where a reading ended, unless it failed. -/
def bind : Reading α → (α → List Located → Reading β) → Reading β
  | ⟨.ok a, ts⟩, f => f a ts
  | ⟨.error e, ts⟩, _ => fail e ts

/-- Apply a function to the value that was read. -/
def map (f : α → β) (r : Reading α) : Reading β :=
  r.bind fun a ts => done (f a) ts

@[simp]
theorem bind_done (a : α) (ts : List Located) (f : α → List Located → Reading β) :
    (done a ts).bind f = f a ts :=
  rfl

@[simp]
theorem bind_fail (e : Error) (ts : List Located) (f : α → List Located → Reading β) :
    (fail e ts : Reading α).bind f = fail e ts :=
  rfl

/-- A reading that went on succeeded exactly when both of its parts did. -/
theorem bind_eq_done_iff {r : Reading α} {f : α → List Located → Reading β} {b : β}
    {us : List Located} :
    r.bind f = done b us ↔ ∃ a ts, r = done a ts ∧ f a ts = done b us := by
  obtain ⟨outcome, ts⟩ := r
  cases outcome with
  | ok a =>
    constructor
    · exact fun h => ⟨a, ts, rfl, h⟩
    · rintro ⟨_, _, ⟨⟩, h⟩
      exact h
  | error e => simp

theorem map_eq_done_iff {r : Reading α} {f : α → β} {b : β} {us : List Located} :
    r.map f = done b us ↔ ∃ a, r = done a us ∧ f a = b := by
  simp only [map, bind_eq_done_iff, mk.injEq, Except.ok.injEq]
  grind

/-- Going on with readers that add no tokens adds none. -/
theorem length_ahead_bind_le {r : Reading α} {f : α → List Located → Reading β} {n : Nat}
    (hr : r.ahead.length ≤ n) (hf : ∀ a ts, (f a ts).ahead.length ≤ ts.length) :
    (r.bind f).ahead.length ≤ n := by
  obtain ⟨outcome, ts⟩ := r
  cases outcome with
  | ok a => exact Nat.le_trans (hf a ts) hr
  | error e => exact hr

end Reading

/-- A way of reading an `α` at a cursor. -/
abbrev Reader (α : Type) := List Located → Reading α

/-- The tokens have run out. -/
def endOfTokens : Error :=
  ⟨0, .endOfInput⟩

/-- Look at the next token and leave it ahead. -/
def peek : Reader Located
  | [] => .fail endOfTokens []
  | t :: ts => .done t (t :: ts)

/-- Read a token of the given kind. -/
def expect (kind : Kind) : Reader Located
  | [] => .fail endOfTokens []
  | t :: ts =>
    if t.kind = kind then .done t ts
    else .fail ⟨t.line, .unexpectedToken kind t.kind⟩ (t :: ts)

/-- Read a name; the value is its spelling and its line. -/
def identifier : Reader (String × Nat)
  | [] => .fail endOfTokens []
  | t :: ts =>
    match t.token with
    | .ident name => .done (name, t.line) ts
    | _ => .fail ⟨t.line, .unexpectedToken .ident t.kind⟩ (t :: ts)

theorem expect_eq_done_iff {kind : Kind} {ts us : List Located} {t : Located} :
    expect kind ts = .done t us ↔ ts = t :: us ∧ t.kind = kind := by
  cases ts with
  | nil => simp [expect]
  | cons a ts =>
    simp only [expect]
    split <;> grind

theorem identifier_eq_done_iff {ts us : List Located} {name : String} {line : Nat} :
    identifier ts = .done (name, line) us ↔ ts = ⟨.ident name, line⟩ :: us := by
  cases ts with
  | nil => simp [identifier]
  | cons t ts =>
    obtain ⟨token, l⟩ := t
    cases token <;> simp [identifier]

/-- Reading a token of a given kind never adds tokens. -/
theorem length_ahead_expect_le (kind : Kind) (ts : List Located) :
    (expect kind ts).ahead.length ≤ ts.length := by
  cases ts with
  | nil => simp [expect]
  | cons t ts =>
    simp only [expect]
    split <;> simp

end Reckoner
