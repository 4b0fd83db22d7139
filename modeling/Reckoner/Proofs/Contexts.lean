import Reckoner.Log.Stages
import Reckoner.Proofs.Consistency

/-!
# Contexts and stores

A context has its values in one place and the order of its keys in another, and nothing in the
type of contexts ties the two together. A store has both in one list of entries. A context keeps a
store (`Context.Keeps`) if it lists the same keys in the same order and has the same value under
every key.

Whatever is done with a context that keeps a store is done to the store too : it has the same
result, leaves the events of the same assignments, and leaves a context that keeps the store that
is left (`Context.Keeps.carryOutAll`, `Context.Keeps.perform`). So all contexts that calls build
from the empty one keep a store, also when some of the calls failed. Because that store is
consistent, order and values of the context agree (`Context.InStep`), and interpreting a text in a
context gives the result that it has on stores (`result_evaluateLogged`).
-/

namespace Reckoner

namespace Context

variable {c : Context} {s : Store}

theorem bind_eq (c : Context) (name : String) (v : Int) :
    c.bind name v = ⟨c.values.insert (key name) v,
      if c.values.contains (key name) then c.order else c.order ++ [key name]⟩ := by
  rw [← Std.HashMap.containsThenInsert_fst, ← Std.HashMap.containsThenInsert_snd]
  rfl

/-- The context has the variables of the store in their order, with their values. -/
structure Keeps (c : Context) (s : Store) : Prop where
  order : c.order = s.names
  values : ∀ k, c.values[k]? = s.entries.lookup k

theorem keeps_empty : empty.Keeps .empty :=
  ⟨rfl, fun _ => Std.HashMap.getElem?_empty⟩

namespace Keeps

theorem get? (h : c.Keeps s) (name : String) : c.get? name = s.get? name :=
  h.values (key name)

theorem eval (h : c.Keeps s) (e : Expr) : c.eval e = s.eval e := by
  rw [Context.eval, funext h.get?, Store.eval]

theorem contains_iff (h : c.Keeps s) {k : String} : c.values.contains k ↔ k ∈ s.names := by
  rw [Std.HashMap.contains_iff_mem, Std.HashMap.mem_iff_isSome_getElem?, h.values,
    Option.isSome_iff_exists, Store.mem_names_iff]

theorem bind (h : c.Keeps s) (name : String) (v : Int) : (c.bind name v).Keeps (s.bind name v) := by
  rw [bind_eq]
  constructor
  · rw [Store.names_bind, h.order]
    simp only [h.contains_iff]
  · intro k
    rw [Std.HashMap.getElem?_insert, h.values, Store.bind, Store.lookup_put]
    simp only [beq_iff_eq, eq_comm (a := k)]

/-- The report that goes through the keys in order is that of the store. -/
theorem report (h : c.Keeps s) (hs : s.Consistent) : c.report = s.report := by
  rw [Context.report, h.order]
  simp only [h.values]
  exact congrArg Report.mk hs.filterMap_names

end Keeps

end Context

/-! ## Running in a context -/

namespace Effect

variable {α β : Type} {e : Effect α} {next : α → Context → Effect β}

theorem andThen_of_ok {a : α} (h : e.result = .ok a) : e.andThen next =
    ⟨(next a e.context).result, e.events ++ (next a e.context).events,
      (next a e.context).context⟩ := by
  rw [andThen, h]

theorem andThen_of_error {err : Error} (h : e.result = .error err) :
    e.andThen next = ⟨.error err, e.events, e.context⟩ := by
  rw [andThen, h]

end Effect

/-- How a run ended. -/
def Run.ending (r : Run) : Except Error Unit :=
  match r.error? with
  | none => .ok ()
  | some e => .error e

theorem Run.ending_eq_ok_iff {r : Run} : r.ending = .ok () ↔ r.error? = none := by
  unfold ending
  split <;> simp_all

theorem Run.ending_eq_error_iff {r : Run} {e : Error} :
    r.ending = .error e ↔ r.error? = some e := by
  unfold ending
  split <;> simp_all

/-- What was done with a context is what a run does : it ends in the same way and leaves the events
of the assignments, and the context keeps the store. -/
structure Effect.Follows (e : Effect Unit) (r : Run) : Prop where
  result : e.result = r.ending
  events : e.events = r.assigned.map .assigned
  context : e.context.Keeps r.store

namespace Context

variable {c : Context} {s : Store} {st : Statement} {p : List Statement}

theorem carryOut_of_ok {v : Int} (h : c.eval st.value = .ok v) :
    c.carryOut st = ⟨.ok v, [.assigned ⟨st.name, v, st.line⟩], c.bind st.name v⟩ := by
  rw [carryOut, h]

theorem carryOut_of_error {e : Error} (h : c.eval st.value = .error e) :
    c.carryOut st = ⟨.error e, [], c⟩ := by
  rw [carryOut, h]

theorem carryOutAll_cons_of_ok {v : Int} (h : c.eval st.value = .ok v) (p : List Statement) :
    c.carryOutAll (st :: p) = ⟨((c.bind st.name v).carryOutAll p).result,
      .assigned ⟨st.name, v, st.line⟩ :: ((c.bind st.name v).carryOutAll p).events,
      ((c.bind st.name v).carryOutAll p).context⟩ := by
  rw [carryOutAll, carryOut_of_ok h]
  exact Effect.andThen_of_ok rfl

theorem carryOutAll_cons_of_error {e : Error} (h : c.eval st.value = .error e)
    (p : List Statement) : c.carryOutAll (st :: p) = ⟨.error e, [], c⟩ := by
  rw [carryOutAll, carryOut_of_error h]
  exact Effect.andThen_of_error rfl

/-- Statements are carried out in a context as they are run on the store that it keeps. -/
theorem Keeps.carryOutAll (h : c.Keeps s) (p : List Statement) :
    (c.carryOutAll p).Follows (s.run p) := by
  induction p generalizing c s with
  | nil => exact ⟨rfl, rfl, h⟩
  | cons st p ih =>
    cases hv : s.eval st.value with
    | error e =>
      rw [Store.run_cons_of_error hv, carryOutAll_cons_of_error ((h.eval _).trans hv)]
      exact ⟨rfl, rfl, h⟩
    | ok v =>
      obtain ⟨hresult, hevents, hcontext⟩ := ih (h.bind st.name v)
      rw [Store.run_cons_of_ok hv, carryOutAll_cons_of_ok ((h.eval _).trans hv)]
      exact ⟨hresult, by rw [hevents, List.map_cons], hcontext⟩

/-- At its end a run leaves one more event, with the numbers of statements and variables. -/
theorem run_of_ok (h : (c.carryOutAll p).result = .ok ()) : c.run p =
    ⟨.ok (), (c.carryOutAll p).events ++
      [.evaluated p.length (c.carryOutAll p).context.order.length],
      (c.carryOutAll p).context⟩ :=
  Effect.andThen_of_ok h

/-- A run that is stopped does not. -/
theorem run_of_error {e : Error} (h : (c.carryOutAll p).result = .error e) :
    c.run p = ⟨.error e, (c.carryOutAll p).events, (c.carryOutAll p).context⟩ :=
  Effect.andThen_of_error h

theorem context_run (c : Context) (p : List Statement) :
    (c.run p).context = (c.carryOutAll p).context := by
  cases h : (c.carryOutAll p).result with
  | ok _ => rw [run_of_ok h]
  | error e => rw [run_of_error h]

theorem result_run (c : Context) (p : List Statement) :
    (c.run p).result = (c.carryOutAll p).result := by
  cases h : (c.carryOutAll p).result with
  | ok _ => rw [run_of_ok h]
  | error e => rw [run_of_error h]

theorem Keeps.run (h : c.Keeps s) (p : List Statement) :
    (c.run p).context.Keeps (s.run p).store := by
  rw [context_run]
  exact (h.carryOutAll p).context

theorem Keeps.result_run (h : c.Keeps s) (p : List Statement) :
    (c.run p).result = (s.run p).ending :=
  (c.result_run p).trans (h.carryOutAll p).result

end Context

/-! ## Contexts that calls build -/

namespace Context

variable {c : Context} {s : Store}

/-- The context after a call. A call that fails leaves what was assigned before it failed. -/
def perform (c : Context) : Call → Context
  | .bind name v => c.bind name v
  | .statement st => (c.carryOut st).context
  | .run p => (c.run p).context

/-- The context after calls, one after the other. -/
def performAll (c : Context) (calls : List Call) : Context :=
  calls.foldl perform c

/-- A call does to a context what it does to the store that the context keeps. -/
theorem Keeps.perform (h : c.Keeps s) (call : Call) : (c.perform call).Keeps (s.perform call) := by
  cases call with
  | bind name v => exact h.bind name v
  | statement st =>
    cases hv : s.eval st.value with
    | error e =>
      rw [Context.perform, carryOut_of_error ((h.eval _).trans hv), Store.perform, Store.assigns,
        hv]
      exact h
    | ok v =>
      rw [Context.perform, carryOut_of_ok ((h.eval _).trans hv), Store.perform, Store.assigns, hv]
      exact h.bind st.name v
  | run p => exact h.run p

theorem Keeps.performAll (h : c.Keeps s) (calls : List Call) :
    (c.performAll calls).Keeps (s.performAll calls) := by
  induction calls generalizing c s with
  | nil => exact h
  | cons call calls ih => exact ih (h.perform call)

/-- The order of the variables and their values agree. -/
structure InStep (c : Context) : Prop where
  /-- No key is listed twice. -/
  distinct : c.order.Nodup
  /-- The listed keys are those under which a value is stored. -/
  stored : ∀ k, k ∈ c.order ↔ k ∈ c.values
  /-- Every listed key is its own key. -/
  keys : ∀ k ∈ c.order, key k = k
  /-- The report has an entry for every listed key, in their order. -/
  complete : c.report.entries.map Prod.fst = c.order
  /-- The reported value of a variable is its value. -/
  values : ∀ e ∈ c.report.entries, c.get? e.1 = some e.2

theorem Keeps.inStep (h : c.Keeps s) (hs : s.Consistent) : c.InStep where
  distinct := h.order ▸ hs.distinct
  stored k := by rw [h.order, ← h.contains_iff, Std.HashMap.contains_iff_mem]
  keys k hk := hs.keys k (h.order ▸ hk)
  complete := by
    rw [h.report hs, h.order]
    rfl
  values e he := by
    rw [h.report hs] at he
    rw [h.get?]
    exact hs.get?_of_mem he

end Context

/-- In every context that calls build from the empty one, failing calls included, the order of the
variables and their values agree, and every further call leaves the variables that are there in
front and in their order. -/
theorem inStep_performAll (calls : List Call) :
    (Context.empty.performAll calls).InStep ∧
      ∀ call, (Context.empty.performAll calls).order <+:
        ((Context.empty.performAll calls).perform call).order := by
  have hkeeps := Context.keeps_empty.performAll calls
  refine ⟨hkeeps.inStep (Store.consistent_performAll calls), fun call => ?_⟩
  rw [hkeeps.order, (hkeeps.perform call).order]
  exact Store.prefix_names_perform _ call

/-! ## Interpreting in a context -/

namespace Stage

variable {α β : Type}

theorem result_ofResult (result : Except Error α) (event : α → Event) :
    (ofResult result event).result = result := by
  cases result <;> rfl

theorem result_andThen (stage : Stage α) (next : α → Stage β) :
    (stage.andThen next).result = stage.result >>= fun a => (next a).result := by
  obtain ⟨result, events⟩ := stage
  cases result <;> rfl

end Stage

theorem Context.report_run (p : List Statement) :
    (empty.run p).context.report = (Store.empty.run p).store.report :=
  (keeps_empty.run p).report (Store.consistent_performAll [.run p])

/-- A program has the same result in a context and on a store. -/
theorem result_runLogged (p : List Statement) :
    (runLogged p).result = (Store.empty.run p).result := by
  change (Context.empty.run p).result.map (fun _ => (Context.empty.run p).context.report) = _
  rw [Context.report_run, Context.keeps_empty.result_run, Run.ending, Run.result]
  cases (Store.empty.run p).error? <;> rfl

/-- The stages with their events have the same result as without. -/
theorem result_evaluateLogged (source : String) :
    (evaluateLogged source).result = evaluate source := by
  simp only [evaluateLogged, Stage.result_andThen, tokenizeLogged, parseLogged,
    Stage.result_ofResult, result_runLogged]
  rfl

theorem result_interpretLogged (source : String) :
    (interpretLogged source).result = interpret source := by
  rw [interpret, ← result_evaluateLogged, interpretLogged]
  cases (evaluateLogged source).result <;> rfl

end Reckoner
