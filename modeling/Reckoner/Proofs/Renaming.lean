import Mathlib.Data.List.Forall2
import Reckoner.Proofs.Definedness
import Reckoner.Proofs.Relabeling

/-!
# Renaming variables

What the variables of a program are called has no part in what it computes. A renaming may give
names new keys, but it has to keep variables what they are (`KeepsVariables`) : two names that the
program uses stand for one variable exactly if the new names do. Nothing is asked of other names.

Such a renaming says what becomes of the keys : a key is that of some name in the program, and all
names with this key get names with the same new key (`renamedKey`). Different keys get different
ones, so this is a change of keys that the program follows (`Rekeying.ofNames`). Hence the renamed
program runs side by side with the program, on stores with renamed keys (`Store.run_ofNames`). It
comes to its end or is stopped at the same place, and leaves the same values in the same order
(`run_renamed`).
-/

namespace Reckoner

/-! ## Renamed keys -/

/-- Two of the names stand for one variable exactly if they do when they are renamed. -/
def KeepsVariables (f : String → String) (names : List String) : Prop :=
  ∀ a ∈ names, ∀ b ∈ names, key (f a) = key (f b) ↔ key a = key b

instance (f : String → String) (names : List String) : Decidable (KeepsVariables f names) :=
  inferInstanceAs (Decidable (∀ a ∈ names, ∀ b ∈ names, _))

/-- The new key for `k` is that of the first of the names with the key `k`, when it is renamed. -/
def renamedKey (f : String → String) (names : List String) (k : String) : String :=
  match names.find? fun a => key a = k with
  | some a => key (f a)
  | none => k

variable {f : String → String} {names : List String}

/-- It is that of all names with the key. -/
theorem renamedKey_key (h : KeepsVariables f names) {a : String} (ha : a ∈ names) :
    renamedKey f names (key a) = key (f a) := by
  obtain ⟨b, hb⟩ : ∃ b, names.find? (fun b => key b = key a) = some b := by
    rw [← Option.isSome_iff_exists, List.find?_isSome]
    exact ⟨a, ha, decide_eq_true rfl⟩
  have hkey : key b = key a := by simpa using List.find?_some hb
  rw [renamedKey, hb]
  exact (h b (List.mem_of_find?_eq_some hb) a ha).2 hkey

/-- The change of keys that comes with a renaming. The keys of the names are known. -/
def Rekeying.ofNames (h : KeepsVariables f names) : Rekeying where
  apply := renamedKey f names
  Known k := ∃ a ∈ names, k = key a
  apart := by
    rintro _ _ ⟨a, ha, rfl⟩ ⟨b, hb, rfl⟩ heq
    rw [renamedKey_key h ha, renamedKey_key h hb] at heq
    exact (h a ha b hb).1 heq

variable (f) in
/-- The relabeling that changes names by `f` and no lines. -/
def Relabeling.ofNames : Relabeling :=
  ⟨id, f⟩

theorem Relabeling.follows_ofNames (h : KeepsVariables f names) {a : String} (ha : a ∈ names) :
    (ofNames f).Follows (.ofNames h) a :=
  ⟨⟨a, ha, rfl⟩, (renamedKey_key h ha).symm⟩

/-! ## What a renamed program leaves -/

variable (f names) in
/-- The same values in the same places. Where the key of a name `a` was, there is that of `f a`. -/
def EntriesRenamed : List (String × Int) → List (String × Int) → Prop :=
  List.Forall₂ fun e e' => (∃ a ∈ names, e.1 = key a ∧ e'.1 = key (f a)) ∧ e'.2 = e.2

theorem entriesRenamed_onEntries (h : KeepsVariables f names) {es : List (String × Int)}
    (hes : ∀ e ∈ es, ∃ a ∈ names, e.1 = key a) :
    EntriesRenamed f names es ((Rekeying.ofNames h).onEntries es) := by
  refine List.forall₂_map_right_iff.2 (List.forall₂_same.2 fun e he => ⟨?_, rfl⟩)
  obtain ⟨a, ha, hkey⟩ := hes e he
  refine ⟨a, ha, hkey, ?_⟩
  rw [hkey]
  exact renamedKey_key h ha

/-- What the run of a program and that of the renamed program have in common. -/
structure Run.Renamed (f : String → String) (names : List String) (r r' : Run) : Prop where
  /-- Both runs come to their end, or none of them. -/
  ends : r'.error? = none ↔ r.error? = none
  /-- If they do, the same values are reported in the same places, under the renamed keys. -/
  report : r.error? = none → EntriesRenamed f names r.store.report.entries r'.store.report.entries
  /-- If they do not, they are stopped on the same line, by a variable and the renamed one. -/
  error : ∀ e, r.error? = some e → ∃ a ∈ names, ∃ line, e = ⟨line, .unknownVariable a⟩ ∧
    r'.error? = some ⟨line, .unknownVariable (f a)⟩
  /-- In both cases the same values are stored in the same places, under the renamed keys. -/
  stored : EntriesRenamed f names r.store.entries r'.store.entries
  /-- A renamed variable has the value of the variable, or none if the variable has none. -/
  values : ∀ a ∈ names, r'.store.get? (f a) = r.store.get? a
  /-- The same values were assigned on the same lines, to the renamed variables. -/
  assigned : r'.assigned = r.assigned.map fun a => ⟨f a.name, a.value, a.line⟩

theorem name_mem_namesIn {st : Statement} {p : List Statement} (h : st ∈ p) :
    st.name ∈ namesIn p :=
  List.mem_flatMap.2 ⟨st, h, List.mem_cons_self⟩

theorem read_mem_namesIn {st : Statement} {p : List Statement} (h : st ∈ p) {r : String × Nat}
    (hr : r ∈ st.value.reads) : r.1 ∈ namesIn p :=
  List.mem_flatMap.2 ⟨st, h, List.mem_cons_of_mem _ (List.mem_map_of_mem hr)⟩

namespace Store

variable {p : List Statement}

theorem exists_name_of_run {n : String} (hn : n ∈ (empty.run p).store.names) :
    ∃ a ∈ namesIn p, n = key a := by
  rcases mem_names_run hn with hn | ⟨st, hst, rfl⟩
  · simp [names, empty] at hn
  · exact ⟨st.name, name_mem_namesIn hst, rfl⟩

theorem run_ofNames (h : KeepsVariables f (namesIn p)) :
    empty.run (p.map (Statement.relabel (.ofNames f))) =
      ((empty.run p).relabel (.ofNames f)).rekey (.ofNames h) :=
  run_rekey (s := empty) (by simp [names, empty]) fun _ ha => Relabeling.follows_ofNames h ha

end Store

/-- A program whose variables are renamed runs as before, if names of one variable, and no others,
become names of one variable. It comes to its end exactly if the program does, and then it reports
the same values in the same places, with the key of `f a` for that of `a`. If it is stopped, then on
the same line, and by `f a` if the program is stopped by `a`. The stores that are left correspond
like the reports. -/
theorem run_renamed (f : String → String) (p : List Statement)
    (h : KeepsVariables f (namesIn p)) :
    Run.Renamed f (namesIn p) (Store.empty.run p)
      (Store.empty.run (p.map (Statement.relabel (.ofNames f)))) := by
  have hstored := entriesRenamed_onEntries h fun e he =>
    Store.exists_name_of_run (p := p) (List.mem_map_of_mem (f := Prod.fst) he)
  rw [Store.run_ofNames h]
  refine { ends := Option.map_eq_none_iff, report := fun _ => hstored, error := fun e he => ?_,
           stored := hstored, values := fun a ha => ?_, assigned := rfl }
  · obtain ⟨st, hst, r, hr, rfl⟩ := Store.exists_read_of_error? he
    refine ⟨r.1, read_mem_namesIn hst hr, r.2, rfl, ?_⟩
    rw [Run.rekey, Run.relabel, he]
    rfl
  · -- Without `ρ` given, `f a` is not recognized as the relabeled name.
    exact Store.get?_rekey (ρ := .ofNames f) (fun _ => Store.exists_name_of_run)
      (Relabeling.follows_ofNames h ha)

/-- Names that are not in the table are kept. Two variables get the old names of others, and one
new name ends in a capital sigma. -/
def respelled (name : String) : String :=
  let table := [("x", "Total"), ("X", "tOTAL"), ("Total", "ΟΔΟΣ"), ("TOTAL", "Οδος"), ("q", "x")]
  (table.lookup name).getD name

/-- The variable `x` gets a new value under another spelling, and `q` has none. -/
def respelledProgram : List Statement :=
  [⟨"x", .number 2 1, 1⟩, ⟨"Total", .binary (.var "x" 2) .add (.number 5 2) 2, 2⟩,
    ⟨"X", .binary (.var "TOTAL" 3) .mul (.var "x" 3) 3, 3⟩, ⟨"y", .var "q" 4, 4⟩]

/-- The first three statements come to their end, and the last one is stopped by `x`, the new name
of `q`, which is not mistaken for the old `x`. -/
theorem run_renamed_respelled :
    KeepsVariables respelled (namesIn respelledProgram) ∧
    EntriesRenamed respelled (namesIn (respelledProgram.take 3)) [("x", 14), ("total", 7)]
      (Store.empty.run ((respelledProgram.take 3).map
        (Statement.relabel (.ofNames respelled)))).store.report.entries ∧
    (Store.empty.run (respelledProgram.map (Statement.relabel (.ofNames respelled)))).error? =
      some ⟨4, .unknownVariable "x"⟩ := by
  have h : KeepsVariables respelled (namesIn respelledProgram) := by decide +kernel
  have hreport := (run_renamed respelled (respelledProgram.take 3) (by decide +kernel)).report
    (by decide +kernel)
  have hentries : (Store.empty.run (respelledProgram.take 3)).store.report.entries =
      [("x", 14), ("total", 7)] := by decide +kernel
  rw [hentries] at hreport
  obtain ⟨a, -, line, heq, herror⟩ := (run_renamed respelled respelledProgram h).error
    ⟨4, .unknownVariable "q"⟩ (by decide +kernel)
  obtain ⟨rfl, hcause⟩ := Error.mk.inj heq
  obtain rfl := Cause.unknownVariable.inj hcause
  have hq : respelled "q" = "x" := by decide +kernel
  rw [hq] at herror
  exact ⟨h, hreport, herror⟩

end Reckoner
