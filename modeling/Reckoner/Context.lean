import Reckoner.Log.Event
import Std.Data.HashMap

/-!
# Contexts

A program that runs keeps its variables in a context : a hash map from keys to values, which has
no order, and the keys in the order of first assignment. An assignment goes to the map, and its key
is put behind the others if the map did not have it. A report goes through the keys in order and
looks each of them up.

Whatever is done with a context leaves events (`Effect`). A statement that is carried out leaves
one, between the evaluation of its expression and the assignment, and a run that comes to its end
leaves another one.
-/

namespace Reckoner

/-- The variables of a running program. -/
structure Context where
  /-- The value of every assigned variable, under its key. -/
  values : Std.HashMap String Int
  /-- The keys in order of first assignment. -/
  order : List String

namespace Context

/-- The context without variables. -/
def empty : Context :=
  ⟨∅, []⟩

/-- The value of the variable called `name`. -/
def get? (c : Context) (name : String) : Option Int :=
  c.values[key name]?

/-- Assign `v` to the variable called `name`. -/
def bind (c : Context) (name : String) (v : Int) : Context :=
  let (known, values) := c.values.containsThenInsert (key name) v
  ⟨values, if known then c.order else c.order ++ [key name]⟩

/-- The report of all variables. A key without a value would be left out. -/
def report (c : Context) : Report :=
  ⟨c.order.filterMap fun k => c.values[k]?.map (k, ·)⟩

/-- The value of a variable that an expression names on line `line`. -/
def value (c : Context) (name : String) (line : Nat) : Except Error Int :=
  valueBy c.get? name line

/-- The value of an expression. -/
def eval (c : Context) (e : Expr) : Except Error Int :=
  e.evalBy c.get?

end Context

/-- What was done with a context : the result, the events in order, and the context that is left,
whether or not it failed. -/
structure Effect (α : Type) where
  result : Except Error α
  events : List Event
  context : Context

/-- Go on where something was done, unless it failed. -/
def Effect.andThen {α β : Type} (e : Effect α) (next : α → Context → Effect β) : Effect β :=
  match e.result with
  | .error err => ⟨.error err, e.events, e.context⟩
  | .ok a =>
    let later := next a e.context
    { later with events := e.events ++ later.events }

namespace Context

/-- Carry out a statement; the result is the assigned value. -/
def carryOut (c : Context) (st : Statement) : Effect Int :=
  match c.eval st.value with
  | .error e => ⟨.error e, [], c⟩
  | .ok v => ⟨.ok v, [.assigned ⟨st.name, v, st.line⟩], c.bind st.name v⟩

/-- Carry out statements one after the other. -/
def carryOutAll (c : Context) : List Statement → Effect Unit
  | [] => ⟨.ok (), [], c⟩
  | st :: rest => (c.carryOut st).andThen fun _ c => c.carryOutAll rest

/-- Run a program. -/
def run (c : Context) (p : List Statement) : Effect Unit :=
  (c.carryOutAll p).andThen fun _ c => ⟨.ok (), [.evaluated p.length c.order.length], c⟩

end Context

end Reckoner
