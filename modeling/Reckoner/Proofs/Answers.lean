import Mathlib.Tactic.MkIffOfInductiveProp
import Reckoner.CommandLine.Session
import Reckoner.Proofs.Concatenation
import Reckoner.Proofs.Contexts
import Reckoner.Proofs.OutputLine
import Reckoner.Proofs.Report
import Reckoner.Proofs.Requests

/-!
# What a session prints

A session prints the text of its request (`Surroundings.printed`), which is one line unless help
or the version is asked for. The line is that of a report, or the one for failures. No line feed is
in it, because the line of a report is cut into tokens that all stand on the first line
(`Report.lineFeed_notMem_text`).

The program is the plain argument, the file that it names, or standard input
(`Surroundings.Reads`). The setting of the log and how much detail is asked for have no part in
what is printed.
-/

namespace Reckoner

/-! ## Lines -/

theorem Report.lineFeed_notMem_text {r : Report} (h : ∀ e ∈ r.entries, isName e.1) :
    '\n' ∉ r.text.toList := by
  obtain ⟨row, hrow, -⟩ := exists_row_of_scan (tokenize_reportText h)
  have hend := (List.append_inj' hrow rfl).2
  have hfeeds : lineFeeds r.text.toList = 0 := by simpa using hend
  exact List.count_eq_zero.1 hfeeds

/-- What is printed for a source text is one line. -/
theorem lineFeed_notMem_interpret (source : String) : '\n' ∉ (interpret source).toList := by
  cases h : evaluate source with
  | ok r =>
    rw [interpret_of_ok h]
    exact Report.lineFeed_notMem_text (canonical_of_evaluate h).names
  | error e =>
    rw [interpret_of_error h]
    decide +kernel

namespace CommandLine

/-! ## The program -/

theorem decode_eq_ok_iff {bytes : ByteArray} {text : String} :
    decode bytes = .ok text ↔ bytes = text.toUTF8 := by
  unfold decode
  by_cases h : bytes.IsValidUTF8
  · have hfrom : String.fromUTF8? bytes = some (.fromUTF8 bytes h) := dif_pos h
    rw [hfrom, Except.ok.injEq]
    constructor
    · rintro rfl
      rfl
    · rintro rfl
      rfl
  · have hfrom : String.fromUTF8? bytes = none := dif_neg h
    rw [hfrom]
    refine iff_of_false (by simp) ?_
    rintro rfl
    exact h text.isValidUTF8

theorem bind_decode_eq_ok_iff {found : Except ReadFault ByteArray} {text : String} :
    found >>= decode = .ok text ↔ found = .ok text.toUTF8 := by
  cases found with
  | ok bytes => exact decode_eq_ok_iff.trans (by simp)
  | error fault => simp [bind, Except.bind]

namespace Surroundings

variable (s : Surroundings)

/-- The items of a command line point to the program `text`. -/
@[mk_iff]
inductive Reads (is : List Item) (text : String) : Prop where
  /-- It is the plain argument. -/
  | contents (plain : plains is = [text]) (direct : .flag (some .file) ∉ is)
  /-- It is in the file that the plain argument names. -/
  | file {path : String} (plain : plains is = [path]) (flag : .flag (some .file) ∈ is)
    (found : s.file path = .ok text.toUTF8)
  /-- Without a plain argument it is on standard input. -/
  | standardInput (plain : plains is = []) (found : s.standardInput = .ok text.toUTF8)

/-- The settings lead to the program that the items point to. -/
theorem text_eq_ok_iff {is : List Item} (h : Fits is) {text : String} :
    s.text (settings is).origin = .ok text ↔ s.Reads is text := by
  rw [reads_iff]
  cases hplains : plains is with
  | nil =>
    have horigin : (settings is).origin = .standardInput := by
      simp [settings, Options.origin, hplains]
    simp [horigin, Surroundings.text, bind_decode_eq_ok_iff]
  | cons arg rest =>
    have hrest : rest = [] := by
      have hsingle := h.single
      rw [hplains, List.length_cons] at hsingle
      exact List.length_eq_zero_iff.1 (by omega)
    by_cases hfile : .flag (some .file) ∈ is
    · have horigin : (settings is).origin = .file arg := by
        simp [settings, Options.origin, hplains, hfile]
      simp [horigin, hrest, hfile, Surroundings.text, bind_decode_eq_ok_iff]
    · have horigin : (settings is).origin = .contents arg := by
        simp [settings, Options.origin, hplains, hfile]
      simp [horigin, hrest, hfile, Surroundings.text]

/-- The line that is printed for settings. -/
def line (o : Options) : String :=
  match s.text o.origin with
  | .error _ => failureLine
  | .ok text => Reckoner.interpret text

/-- The text that is printed for a request. -/
def printed : Request → String
  | .help => helpText
  | .version => versionText
  | .misuse => failureLine ++ "\n"
  | .interpret o => s.line o ++ "\n"

/-- A session prints the text of its request and exits with zero. -/
theorem respond_eq (args : List String) :
    (s.respond args).output = s.printed (Request.ofArgs args) ∧ (s.respond args).exitCode = 0 := by
  unfold respond
  cases Request.ofArgs args with
  | interpret o =>
    simp only [printed, line, Surroundings.interpret]
    cases s.text o.origin with
    | error fault => exact ⟨rfl, rfl⟩
    | ok text => exact ⟨congrArg (· ++ "\n") (result_interpretLogged text), rfl⟩
  | _ => exact ⟨rfl, rfl⟩

/-- Settings are answered with one line. -/
theorem lineFeed_notMem_line (o : Options) : '\n' ∉ (s.line o).toList := by
  unfold line
  split
  · decide +kernel
  · exact lineFeed_notMem_interpret _

/-- The line for failures is printed exactly if there is no program to read or it fails. -/
theorem line_settings_eq_failureLine_iff {is : List Item} (h : Fits is) :
    s.line (settings is) = failureLine ↔
      (¬∃ text, s.Reads is text) ∨ ∃ text e, s.Reads is text ∧ evaluate text = .error e := by
  simp only [← s.text_eq_ok_iff h, line]
  cases s.text (settings is).origin with
  | error fault => simp
  | ok text => simp [interpret_eq_failureLine_iff]

theorem line_settings_of_reads {is : List Item} (h : Fits is) {text : String}
    (hreads : s.Reads is text) : s.line (settings is) = Reckoner.interpret text := by
  rw [line, (s.text_eq_ok_iff h).2 hreads]

end Surroundings

/-! ## One line -/

/-- Unless help or the version is asked for, a session exits with zero and prints one line. It is
the line for failures exactly if the arguments do not fit, the program that they point to cannot be
read, or the program fails; otherwise it is the line of the program's report. -/
theorem respond_prints_one_line (s : Surroundings) (args : List String)
    (hhelp : ¬AsksFor .help (items args)) (hversion : ¬AsksFor .version (items args)) :
    (s.respond args).exitCode = 0 ∧ ∃ line : String, (s.respond args).output = line ++ "\n" ∧
      '\n' ∉ line.toList ∧
      (line = "error" ↔ ¬Fits (items args) ∨ (¬∃ text, s.Reads (items args) text) ∨
        ∃ text e, s.Reads (items args) text ∧ evaluate text = .error e) ∧
      ∀ text r, Fits (items args) → s.Reads (items args) text → evaluate text = .ok r →
        line = r.text := by
  obtain ⟨houtput, hexit⟩ := s.respond_eq args
  refine ⟨hexit, ?_⟩
  by_cases hfits : Fits (items args)
  · refine ⟨s.line (settings (items args)), ?_, s.lineFeed_notMem_line _, ?_, ?_⟩
    · rw [houtput, Request.ofArgs_of_fits hfits]
      rfl
    · exact (s.line_settings_eq_failureLine_iff hfits).trans (by simp [hfits])
    · intro text r _ hreads hr
      rw [s.line_settings_of_reads hfits hreads, interpret_of_ok hr]
  · refine ⟨failureLine, ?_, by decide +kernel, by simp [hfits, failureLine], fun _ _ h => ?_⟩
    · rw [houtput, Request.ofArgs_of_not_fits hfits hhelp hversion]
      rfl
    · exact absurd h hfits

/-- A program in a file whose name looks like a flag, and standard input that is not text. -/
theorem respond_prints_one_line_file :
    let files : Directory := [("-a", "X = 1; x = (x + 2);".toUTF8)]
    let s : Surroundings := ⟨.ok ⟨#[0xff]⟩, files.read, some "trace", .levels⟩
    (s.respond ["-vf", "--", "-a"]).exitCode = 0 ∧
      (s.respond ["-vf", "--", "-a"]).output = "x = 3\n" ∧
      (s.respond ["-vf"]).output = "error\n" := by
  intro files s
  have hreads : s.Reads (items ["-vf", "--", "-a"]) "X = 1; x = (x + 2);" :=
    .file (show plains (items ["-vf", "--", "-a"]) = ["-a"] by decide +kernel) (by decide +kernel)
      (by decide +kernel)
  have hevaluate : evaluate "X = 1; x = (x + 2);" = .ok ⟨[("x", 3)]⟩ :=
    (evaluate_programText (p := [⟨"X", .number 1 1, 1⟩,
      ⟨"x", .binary (.var "x" 1) .add (.number 2 1) 1, 1⟩]) (by decide)).trans (by decide +kernel)
  have hnone : ¬∃ text, s.Reads (items ["-vf"]) text := by
    have hfault : s.text (settings (items ["-vf"])).origin = .error .notText := by decide +kernel
    simp [← s.text_eq_ok_iff (show Fits (items ["-vf"]) by decide +kernel), hfault]
  obtain ⟨hexit, line, houtput, -, -, hline⟩ := respond_prints_one_line s ["-vf", "--", "-a"]
    (not_asksFor_of_notMem (by decide +kernel)) (not_asksFor_of_notMem (by decide +kernel))
  obtain ⟨-, line', houtput', -, hline', -⟩ := respond_prints_one_line s ["-vf"]
    (not_asksFor_of_notMem (by decide +kernel)) (not_asksFor_of_notMem (by decide +kernel))
  refine ⟨hexit, ?_, ?_⟩
  · rw [houtput, hline _ _ (by decide +kernel) hreads hevaluate]
    decide +kernel
  · rw [houtput', hline'.2 (.inr (.inl hnone))]
    decide +kernel

/-! ## Detail does not matter -/

/-- The setting of the log has no part in what is printed. -/
theorem Surroundings.printed_logSetting (s : Surroundings) (setting : Option String) (r : Request) :
    { s with logSetting := setting }.printed r = s.printed r := by
  cases r with
  | interpret o =>
    have htext : { s with logSetting := setting }.text o.origin = s.text o.origin := by
      cases o.origin <;> rfl
    simp only [printed, line, htext]
  | _ => rfl

/-- What is printed depends on the items but those that ask for more detail. -/
theorem Surroundings.printed_ofItems (s : Surroundings) (is : List Item) :
    s.printed (.ofItems is) = s.printed (.ofItems (withoutDetail is)) := by
  have hquiet : Options.initial.receiveAll (withoutDetail is) =
      (Options.initial.receiveAll is).map Options.quiet :=
    (Options.initial.map_quiet_receiveAll is).symm
  rw [Request.ofItems, Request.ofItems, hquiet]
  cases Options.initial.receiveAll is <;> rfl

/-- The argument asks for more detail once or several times, and for nothing else. -/
def Detail (arg : String) : Prop :=
  arg = "--verbose" ∨ ∃ n, arg.toList = '-' :: List.replicate (n + 1) 'v'

theorem Detail.ne_dashes {arg : String} (h : Detail arg) : arg ≠ "--" := by
  rintro rfl
  rcases h with h | ⟨n, h⟩
  · simp at h
  · simp [List.replicate_succ] at h

theorem Detail.withoutDetail_ofArg {arg : String} (h : Detail arg) :
    withoutDetail (Item.ofArg arg) = [] := by
  rcases h with rfl | ⟨n, h⟩
  · decide +kernel
  · have hflags : flagsOf arg = some ((List.replicate (n + 1) 'v').map Flag.ofShort?) := by
      rw [flagsOf, h, List.replicate_succ]
      rfl
    rw [Item.ofArg, hflags, withoutDetail, List.filter_eq_nil_iff]
    intro i hi
    obtain ⟨f, hf, rfl⟩ := List.mem_map.1 hi
    obtain ⟨c, hc, rfl⟩ := List.mem_map.1 hf
    rw [List.eq_of_mem_replicate hc]
    decide

theorem withoutDetail_items {vs : List String} (h : ∀ v ∈ vs, Detail v) :
    withoutDetail (items vs) = [] := by
  induction vs with
  | nil => rfl
  | cons v vs ih =>
    rw [List.forall_mem_cons] at h
    rw [items, if_neg h.1.ne_dashes, withoutDetail_append, h.1.withoutDetail_ofArg, ih h.2]
    rfl

theorem withoutDetail_items_append {xs vs : List String} (hxs : "--" ∉ xs)
    (hvs : ∀ v ∈ vs, Detail v) (ys : List String) :
    withoutDetail (items (xs ++ vs ++ ys)) = withoutDetail (items (xs ++ ys)) := by
  have hdashes : "--" ∉ vs := fun hmem => (hvs _ hmem).ne_dashes rfl
  rw [List.append_assoc, items_append hxs, items_append hdashes, items_append hxs]
  simp only [withoutDetail_append, withoutDetail_items hvs, List.nil_append]

/-- Asking for more detail, anywhere before a double dash and however often, and setting the log
change neither what a session prints nor its exit code, whatever the request is. -/
theorem respond_output_detail (s : Surroundings) (setting setting' : Option String)
    (xs vs ys : List String) (hxs : "--" ∉ xs) (hvs : ∀ v ∈ vs, Detail v) :
    ({ s with logSetting := setting }.respond (xs ++ vs ++ ys)).output =
        ({ s with logSetting := setting' }.respond (xs ++ ys)).output ∧
      ({ s with logSetting := setting }.respond (xs ++ vs ++ ys)).exitCode =
        ({ s with logSetting := setting' }.respond (xs ++ ys)).exitCode := by
  obtain ⟨houtput, hexit⟩ := { s with logSetting := setting }.respond_eq (xs ++ vs ++ ys)
  obtain ⟨houtput', hexit'⟩ := { s with logSetting := setting' }.respond_eq (xs ++ ys)
  refine ⟨?_, hexit.trans hexit'.symm⟩
  rw [houtput, houtput', s.printed_logSetting setting, s.printed_logSetting setting',
    Request.ofArgs_eq, Request.ofArgs_eq, s.printed_ofItems, withoutDetail_items_append hxs hvs,
    ← s.printed_ofItems]

/-- More detail in three spellings, and then none, for a program in a file. -/
theorem respond_output_detail_file :
    let files : Directory := [("-a", "x = 1;".toUTF8)]
    let s : Surroundings := ⟨.error .missing, files.read, none, .levels⟩
    "--" ∉ ["-f"] ∧ (∀ v ∈ ["-v", "--verbose", "-vvv"], Detail v) ∧
      ({ s with logSetting := some "trace" }.respond
          ["-f", "-v", "--verbose", "-vvv", "--", "-a"]).output =
        ({ s with logSetting := none }.respond ["-f", "--", "-a"]).output := by
  intro files s
  have hdetail : ∀ v ∈ ["-v", "--verbose", "-vvv"], Detail v := by
    simp only [List.forall_mem_cons]
    exact ⟨.inr ⟨0, by decide +kernel⟩, .inl rfl, .inr ⟨2, by decide +kernel⟩, by simp⟩
  exact ⟨by decide, hdetail, (respond_output_detail s (some "trace") none ["-f"] _ ["--", "-a"]
    (by decide) hdetail).1⟩

end CommandLine

end Reckoner
