import Reckoner.Proofs.Answers

/-!
# What the log tells

A log that keeps all events tells how far the program got. A program that is run leaves an event
for every statement that is carried out (`CarriesOut`), up to the first that has no value, and the
context at the end can be had from these events alone (`Context.context_run_eq_bindAll`). The last
event tells how the run ended. A text that cannot be read as a program has its failure in the place
of the events of the stages that were not reached.
-/

namespace Reckoner

/-! ## Events -/

namespace Event

/-- The name and the value that an event says were assigned. -/
def binding? : Event → Option (String × Int)
  | assigned a => some (a.name, a.value)
  | _ => none

/-- A line is the level of an event and its text, here cut behind the words that describe it. -/
theorem line_of_text {e : Event} {l : Level} {words head rest : String} (hlevel : e.level = l)
    (htext : e.text = words ++ rest) (hhead : l.text ++ " " ++ words = head) :
    e.line = head ++ rest := by
  rw [line, hlevel, htext, ← String.append_assoc, hhead]

theorem line_read (n : Nat) : (read n).line = "INFO read program bytes=" ++ Numeral.natText n :=
  line_of_text (l := .info) rfl rfl (by decide +kernel)

theorem line_tokenized (n : Nat) :
    (tokenized n).line = "DEBUG tokenized source count=" ++ Numeral.natText n :=
  line_of_text (l := .debug) rfl rfl (by decide +kernel)

theorem line_parsed (n : Nat) :
    (parsed n).line = "DEBUG parsed program count=" ++ Numeral.natText n :=
  line_of_text (l := .debug) rfl rfl (by decide +kernel)

theorem line_assigned (a : Assignment) :
    (assigned a).line = "TRACE assigned variable name=" ++ (a.name ++ " value=" ++
      Numeral.text a.value ++ " line=" ++ Numeral.natText a.line) := by
  have htext : (assigned a).text = "assigned variable name=" ++ (a.name ++ " value=" ++
      Numeral.text a.value ++ " line=" ++ Numeral.natText a.line) := by
    unfold text
    simp only [String.append_assoc]
  exact line_of_text (l := .trace) rfl htext (by decide +kernel)

theorem line_evaluated (m n : Nat) :
    (evaluated m n).line = "DEBUG evaluated program statements=" ++ (Numeral.natText m ++
      " variables=" ++ Numeral.natText n) := by
  have htext : (evaluated m n).text = "evaluated program statements=" ++ (Numeral.natText m ++
      " variables=" ++ Numeral.natText n) := by
    unfold text
    simp only [String.append_assoc]
  exact line_of_text (l := .debug) rfl htext (by decide +kernel)

theorem line_failed (e : Error) :
    (failed e).line = "DEBUG interpretation failed error=" ++ e.message :=
  line_of_text (l := .debug) rfl rfl (by decide +kernel)

end Event

/-! ## The events of the stages -/

namespace Stage

variable {α β : Type}

theorem ofResult_ok (a : α) (event : α → Event) : ofResult (.ok a) event = ⟨.ok a, [event a]⟩ :=
  rfl

theorem ofResult_error (e : Error) (event : α → Event) :
    ofResult (.error e) event = ⟨.error e, []⟩ :=
  rfl

theorem andThen_ok (a : α) (events : List Event) (next : α → Stage β) :
    andThen ⟨.ok a, events⟩ next = ⟨(next a).result, events ++ (next a).events⟩ :=
  rfl

theorem andThen_error (e : Error) (events : List Event) (next : α → Stage β) :
    andThen ⟨.error e, events⟩ next = ⟨.error e, events⟩ :=
  rfl

end Stage

section Stages

variable {source : String} {ts : List Located} {e : Error}

theorem evaluateLogged_of_tokenize_error (h : tokenize source = .error e) :
    evaluateLogged source = ⟨.error e, []⟩ := by
  rw [evaluateLogged, tokenizeLogged, h, Stage.ofResult_error, Stage.andThen_error]

theorem evaluateLogged_of_parse_error (hts : tokenize source = .ok ts) (h : parse ts = .error e) :
    evaluateLogged source = ⟨.error e, [.tokenized ts.length]⟩ := by
  rw [evaluateLogged, tokenizeLogged, hts, Stage.ofResult_ok, Stage.andThen_ok, parseLogged, h,
    Stage.ofResult_error, Stage.andThen_error]
  rfl

theorem evaluateLogged_of_parse {p : List Statement} (hts : tokenize source = .ok ts)
    (hp : parse ts = .ok p) : evaluateLogged source = ⟨(runLogged p).result,
      .tokenized ts.length :: .parsed p.length :: (Context.empty.run p).events⟩ := by
  rw [evaluateLogged, tokenizeLogged, hts, Stage.ofResult_ok, Stage.andThen_ok, parseLogged, hp,
    Stage.ofResult_ok, Stage.andThen_ok]
  rfl

/-- A failure is the last event. -/
theorem events_interpretLogged_of_error (h : (evaluateLogged source).result = .error e) :
    (interpretLogged source).events = (evaluateLogged source).events ++ [.failed e] := by
  rw [interpretLogged, h]

theorem events_interpretLogged_of_ok {r : Report} (h : (evaluateLogged source).result = .ok r) :
    (interpretLogged source).events = (evaluateLogged source).events := by
  rw [interpretLogged, h]

end Stages

/-! ## The events of a run -/

namespace Context

variable {c : Context} {s : Store} {p : List Statement}

theorem Keeps.events_run_of_none (h : c.Keeps s) (hnone : (s.run p).error? = none) :
    (c.run p).events = (s.run p).assigned.map .assigned ++
      [.evaluated p.length (s.run p).store.names.length] := by
  obtain ⟨hresult, hevents, hcontext⟩ := h.carryOutAll p
  rw [run_of_ok (hresult.trans (Run.ending_eq_ok_iff.2 hnone)), hevents, hcontext.order]

theorem Keeps.events_run_of_some (h : c.Keeps s) {e : Error} (he : (s.run p).error? = some e) :
    (c.run p).events = (s.run p).assigned.map .assigned := by
  obtain ⟨hresult, hevents, -⟩ := h.carryOutAll p
  rw [run_of_error (hresult.trans (Run.ending_eq_error_iff.2 he)), hevents]

/-- Assign the entries in order. -/
def bindAll (c : Context) (entries : List (String × Int)) : Context :=
  entries.foldl (fun c e => c.bind e.1 e.2) c

/-- Statements leave the context to which the assignments of their events are made in order. -/
theorem context_carryOutAll (c : Context) (p : List Statement) : (c.carryOutAll p).context =
    c.bindAll ((c.carryOutAll p).events.filterMap Event.binding?) := by
  induction p generalizing c with
  | nil => rfl
  | cons st p ih =>
    cases hv : c.eval st.value with
    | error e =>
      rw [carryOutAll_cons_of_error hv]
      rfl
    | ok v =>
      rw [carryOutAll_cons_of_ok hv]
      exact ih (c.bind st.name v)

/-- The event at the end of a run assigns nothing. -/
theorem context_run_eq_bindAll (c : Context) (p : List Statement) : (c.run p).context =
    c.bindAll ((c.run p).events.filterMap Event.binding?) := by
  rw [context_run, context_carryOutAll]
  cases h : (c.carryOutAll p).result with
  | ok _ =>
    rw [run_of_ok h, List.filterMap_append]
    exact congrArg c.bindAll (List.append_nil _).symm
  | error e => rw [run_of_error h]

end Context

/-- Interpreting a program leaves the events of the stages before the run and those of the run, or
of what was carried out and of the failure. -/
theorem exists_closing_of_parse {source : String} {ts : List Located} {p : List Statement}
    (hts : tokenize source = .ok ts) (hp : parse ts = .ok p) :
    ∃ closing, (interpretLogged source).events = .tokenized ts.length :: .parsed p.length ::
        ((Store.empty.run p).assigned.map .assigned ++ [closing]) ∧
      (interpretLogged source).events.filterMap Event.binding? =
        (Context.empty.run p).events.filterMap Event.binding? ∧
      ((Store.empty.run p).error? = none →
        closing = .evaluated p.length (Store.empty.run p).store.names.length) ∧
      ∀ e, (Store.empty.run p).error? = some e → closing = .failed e := by
  have hlogged := evaluateLogged_of_parse hts hp
  have hresult : (evaluateLogged source).result = (Store.empty.run p).result := by
    rw [hlogged, result_runLogged]
  cases herror : (Store.empty.run p).error? with
  | none =>
    rw [Run.result, herror] at hresult
    rw [events_interpretLogged_of_ok hresult, hlogged,
      Context.keeps_empty.events_run_of_none herror]
    exact ⟨_, rfl, rfl, fun _ => rfl, by simp⟩
  | some e =>
    rw [Run.result, herror] at hresult
    rw [events_interpretLogged_of_error hresult, hlogged,
      Context.keeps_empty.events_run_of_some herror]
    refine ⟨.failed e, rfl, ?_, by simp, by simp⟩
    rw [List.filterMap_append]
    exact List.append_nil _

/-- The threshold at the least severe level leaves nothing out. -/
theorem Threshold.filter_trace (e : Event) : (upTo .trace).filter e := by
  rw [filter]
  cases e.level <;> rfl

namespace CommandLine

theorem Surroundings.respond_of_reads (s : Surroundings) {args : List String} {text : String}
    (hfits : Fits (items args)) (hreads : s.Reads (items args) text) :
    s.respond args = .ofLine (Reckoner.interpret text)
      ((.read text.utf8ByteSize :: (interpretLogged text).events).filter
        (s.filter (settings (items args)).verbosity)) := by
  unfold respond
  rw [Request.ofArgs_of_fits hfits]
  change s.interpret _ = _
  rw [interpret, (s.text_eq_ok_iff hfits).2 hreads, ← result_interpretLogged]

/-- A log that keeps all events has those of the program that was read. -/
theorem Surroundings.log_respond (s : Surroundings) {args : List String} {text : String}
    (hfits : Fits (items args)) (hreads : s.Reads (items args) text)
    (htrace : ∀ e, s.filter (settings (items args)).verbosity e) :
    (s.respond args).log = .read text.utf8ByteSize :: (interpretLogged text).events := by
  rw [s.respond_of_reads hfits hreads]
  exact List.filter_eq_self.2 fun e _ => htrace e

/-- What the log of a session tells if it keeps all events, line by line. A failure to cut the text
into tokens or to read a program follows the lines of the stages that went well. A program that is
run has one line for every statement that is carried out, and assigning what they name in an empty
context gives the context that the program left. If the run came to its end, these are all the
statements, the report of the context is printed, and the last line counts statements and
variables. If it was stopped, they are the statements before the first without a value, and the
last line tells the error. -/
theorem log_tells_run (s : Surroundings) (args : List String) (text : String)
    (hfits : Fits (items args)) (hreads : s.Reads (items args) text)
    (htrace : ∀ e, s.filter (settings (items args)).verbosity e) :
    (∀ e, tokenize text = .error e → (s.respond args).log.map Event.line =
      ["INFO read program bytes=" ++ Numeral.natText text.utf8ByteSize,
        "DEBUG interpretation failed error=" ++ e.message]) ∧
    (∀ ts e, tokenize text = .ok ts → parse ts = .error e → (s.respond args).log.map Event.line =
      ["INFO read program bytes=" ++ Numeral.natText text.utf8ByteSize,
        "DEBUG tokenized source count=" ++ Numeral.natText ts.length,
        "DEBUG interpretation failed error=" ++ e.message]) ∧
    ∀ ts p run effect, tokenize text = .ok ts → parse ts = .ok p → Store.empty.run p = run →
      Context.empty.run p = effect →
      ∃ closing, (s.respond args).log.map Event.line =
        ["INFO read program bytes=" ++ Numeral.natText text.utf8ByteSize,
          "DEBUG tokenized source count=" ++ Numeral.natText ts.length,
          "DEBUG parsed program count=" ++ Numeral.natText p.length] ++
        run.assigned.map (fun a => "TRACE assigned variable name=" ++ (a.name ++ " value=" ++
          Numeral.text a.value ++ " line=" ++ Numeral.natText a.line)) ++ [closing] ∧
      Context.empty.bindAll ((s.respond args).log.filterMap Event.binding?) = effect.context ∧
      effect.context.Keeps run.store ∧
      (effect.result = .ok () → CarriesOut .empty p run.assigned run.store ∧
        run.assigned.length = p.length ∧
        (s.respond args).output = effect.context.report.text ++ "\n" ∧
        closing = "DEBUG evaluated program statements=" ++ (Numeral.natText p.length ++
          " variables=" ++ Numeral.natText effect.context.report.entries.length)) ∧
      ∀ e, effect.result = .error e → ∃ before st after, p = before ++ st :: after ∧
        CarriesOut .empty before run.assigned run.store ∧
        run.assigned.length = before.length ∧ effect.context.eval st.value = .error e ∧
        closing = "DEBUG interpretation failed error=" ++ e.message := by
  have hlog := s.log_respond hfits hreads htrace
  refine ⟨?_, ?_, ?_⟩
  · intro e he
    have hlogged := evaluateLogged_of_tokenize_error he
    rw [hlog, events_interpretLogged_of_error (by rw [hlogged]), hlogged]
    simp [Event.line_read, Event.line_failed]
  · intro ts e hts he
    have hlogged := evaluateLogged_of_parse_error hts he
    rw [hlog, events_interpretLogged_of_error (by rw [hlogged]), hlogged]
    simp [Event.line_read, Event.line_tokenized, Event.line_failed]
  · rintro ts p run effect hts hp rfl rfl
    obtain ⟨closing, hevents, hbindings, hends, hstops⟩ := exists_closing_of_parse hts hp
    have hkeeps := Context.keeps_empty.run p
    refine ⟨closing.line, ?_, ?_, hkeeps, ?_, ?_⟩
    · rw [hlog, hevents]
      simp [Event.line_read, Event.line_tokenized, Event.line_parsed, Event.line_assigned]
    · rw [Context.context_run_eq_bindAll, ← hbindings, hlog]
      rfl
    · intro hok
      rw [Context.keeps_empty.result_run, Run.ending_eq_ok_iff] at hok
      have hall := Store.carriesOut_of_run hok
      have hevaluate : evaluate text = .ok (Context.empty.run p).context.report :=
        evaluate_eq_ok_iff.2 ⟨ts, p, hts, hp, hok, (Context.report_run p).symm⟩
      refine ⟨hall, hall.length_eq, ?_, ?_⟩
      · rw [s.respond_of_reads hfits hreads, interpret_of_ok hevaluate]
        rfl
      · rw [hends hok, Event.line_evaluated, Context.report_run, Store.names, List.length_map]
        rfl
    · intro e herror
      rw [Context.keeps_empty.result_run, Run.ending_eq_error_iff] at herror
      obtain ⟨before, st, after, hsplit, hbefore, hst⟩ := Store.exists_stop_of_run herror
      refine ⟨before, st, after, hsplit, hbefore, hbefore.length_eq, (hkeeps.eval _).trans hst, ?_⟩
      rw [hstops e herror]
      exact Event.line_failed e

/-- A program that assigns one variable in two spellings and then reads one that has no value. -/
def unfinishedProgram : List Statement :=
  [⟨"x", .number 1 1, 1⟩, ⟨"X", .binary (.var "x" 1) .add (.number 2 1) 1, 1⟩,
    ⟨"y", .var "z" 1, 1⟩]

theorem log_tells_run_unknown :
    let text := "x = 1; X = (x + 2); y = z;"
    let s : Surroundings := ⟨.error .missing, fun _ => .error .missing, none, .levels⟩
    (s.respond ["-vvv", text]).log.map Event.line =
      ["INFO read program bytes=26", "DEBUG tokenized source count=17",
        "DEBUG parsed program count=3", "TRACE assigned variable name=x value=1 line=1",
        "TRACE assigned variable name=X value=3 line=1",
        "DEBUG interpretation failed error=Error on line 1: Unknown variable 'z'."] := by
  intro text s
  have hts : tokenize text = .ok (programRow unfinishedProgram ++ [⟨.eof, 1⟩]) :=
    tokenize_programText (p := unfinishedProgram) (by decide)
  have hp : parse (programRow unfinishedProgram ++ [⟨.eof, 1⟩]) = .ok unfinishedProgram :=
    (parse_programRow unfinishedProgram).trans (by decide +kernel)
  have htrace : ∀ e, s.filter (settings (items ["-vvv", text])).verbosity e := by
    have hverbosity : (settings (items ["-vvv", text])).verbosity = 3 := by decide +kernel
    have hname : Threshold.ofName? (detailText 3) = some (.upTo .trace) := by decide +kernel
    intro e
    rw [hverbosity]
    change ((Threshold.ofName? (detailText 3)).getD .silent).filter e
    rw [hname]
    exact Threshold.filter_trace e
  obtain ⟨-, -, hrun⟩ := log_tells_run s ["-vvv", text] text (by decide +kernel)
    (.contents (by decide +kernel) (by decide +kernel)) htrace
  obtain ⟨closing, hlog, -, -, -, hfail⟩ := hrun _ unfinishedProgram _ _ hts hp rfl rfl
  have hresult : (Context.empty.run unfinishedProgram).result =
      .error ⟨1, .unknownVariable "z"⟩ := by
    rw [Context.keeps_empty.result_run, Run.ending_eq_error_iff]
    decide +kernel
  obtain ⟨before, st, after, -, -, -, -, hclosing⟩ := hfail _ hresult
  rw [hlog, hclosing]
  decide +kernel

end CommandLine

end Reckoner
