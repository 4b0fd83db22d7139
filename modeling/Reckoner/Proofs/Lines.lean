import Reckoner.Proofs.Relabeling

/-!
# Changes of lines

A change of lines is the relabeling that leaves all names as they are. When the lines of a row
of tokens are changed by a function, the same is read, with the lines changed (`parse_relabel`).
When the lines of a program are changed, it runs as before : it assigns the same values and
leaves the same store, and its assignments and its error are reported on the changed lines
(`Store.run_mapLines`).
-/

namespace Reckoner

variable (f : Nat → Nat)

/-- The relabeling that changes lines by `f` and no names. -/
def Relabeling.ofLines : Relabeling :=
  ⟨f, id⟩

theorem Relabeling.keepsKeys_ofLines : (ofLines f).KeepsKeys :=
  fun _ => rfl

/-- The token with its line changed by `f`. -/
abbrev Located.mapLine : Located → Located :=
  Located.relabel (.ofLines f)

/-- The error with its line changed by `f`. -/
abbrev Error.mapLine : Error → Error :=
  Error.relabel (.ofLines f)

/-- The result with its value changed by `g` and the line of its error by `f`. -/
abbrev mapResult {α β : Type} (g : α → β) : Except Error α → Except Error β :=
  relabelResult (.ofLines f) g

/-- The expression with the lines of all nodes changed by `f`. -/
abbrev Expr.mapLines : Expr → Expr :=
  Expr.relabel (.ofLines f)

/-- The statement with its line and the lines of its value changed by `f`. -/
abbrev Statement.mapLines : Statement → Statement :=
  Statement.relabel (.ofLines f)

/-- The run with the lines of its assignments and its error changed by `f`. -/
abbrev Run.mapLines : Run → Run :=
  Run.relabel (.ofLines f)

theorem Located.mapLine_eq (t : Located) : t.mapLine f = ⟨t.token, f t.line⟩ := by
  obtain ⟨token, line⟩ := t
  cases token <;> rfl

theorem Error.mapLine_eq (e : Error) : e.mapLine f = ⟨f e.line, e.cause⟩ := by
  obtain ⟨line, cause⟩ := e
  cases cause <;> rfl

theorem Store.run_mapLines (s : Store) (p : List Statement) :
    s.run (p.map (Statement.mapLines f)) = (s.run p).mapLines f :=
  run_relabel (Relabeling.keepsKeys_ofLines f) s p

end Reckoner
