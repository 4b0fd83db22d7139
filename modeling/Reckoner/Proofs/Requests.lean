import Mathlib.Data.List.Basic
import Mathlib.Tactic.MkIffOfInductiveProp
import Reckoner.CommandLine.Request

/-!
# The first item that does not fit

A command line is a row of items (`Item`) : joined flags are flags one by one, and behind a double
dash every argument is plain. The arguments are taken by taking the items from left to right
(`Request.ofArgs_eq`).

Items fit together (`Fits`) if they are flags for settings and plain arguments, none of them too
often. Taking items that fit gives the settings that are read off them as a whole (`settings`);
otherwise the first item that does not fit to those before it settles the request
(`Request.ofItems_cases`).

Asking for more detail fits everywhere, so it can be left out and nothing else changes
(`Options.map_quiet_receiveAll`).
-/

namespace Reckoner.CommandLine

/-! ## Items -/

/-- What stands on a command line. -/
inductive Item where
  /-- A flag, `none` for one that does not exist. -/
  | flag (f : Option Flag)
  /-- An argument that stands for itself. -/
  | plain (text : String)
  deriving DecidableEq

/-- The items of an argument before a double dash. -/
def Item.ofArg (arg : String) : List Item :=
  match flagsOf arg with
  | some flags => flags.map .flag
  | none => [.plain arg]

/-- The items of a command line. -/
def items : List String → List Item
  | [] => []
  | arg :: args => if arg = "--" then args.map .plain else Item.ofArg arg ++ items args

/-- Take an item into the settings, or settle the request. -/
def Options.receive (o : Options) : Item → Except Request Options
  | .flag f => o.raise f
  | .plain text => o.supply text

/-- Take all items into the settings, or settle the request. -/
def Options.receiveAll (o : Options) (is : List Item) : Except Request Options :=
  is.foldlM Options.receive o

theorem Options.receiveAll_cons (o : Options) (i : Item) (is : List Item) :
    o.receiveAll (i :: is) = (o.receive i).bind fun o => o.receiveAll is :=
  List.foldlM_cons

theorem Options.receiveAll_append (o : Options) (is js : List Item) :
    o.receiveAll (is ++ js) = (o.receiveAll is).bind fun o => o.receiveAll js :=
  List.foldlM_append

theorem Options.take_eq (o : Options) (arg : String) :
    o.take arg = o.receiveAll (Item.ofArg arg) := by
  unfold Options.take Item.ofArg Options.receiveAll
  cases flagsOf arg with
  | some flags =>
    rw [List.foldlM_map]
    rfl
  | none =>
    change o.supply arg = (o.supply arg).bind .ok
    cases o.supply arg <;> rfl

/-- The arguments are taken item by item. -/
theorem Options.takeAll_eq (o : Options) (args : List String) :
    o.takeAll args = o.receiveAll (items args) := by
  induction args generalizing o with
  | nil => rfl
  | cons arg args ih =>
    unfold Options.takeAll items
    split
    · rw [receiveAll, List.foldlM_map]
      rfl
    · rw [receiveAll_append, ← take_eq]
      exact congrArg _ (funext ih)

/-- Without a double dash between them, two command lines give their items one after the other. -/
theorem items_append {xs : List String} (h : "--" ∉ xs) (ys : List String) :
    items (xs ++ ys) = items xs ++ items ys := by
  induction xs with
  | nil => rfl
  | cons x xs ih =>
    rw [List.mem_cons, not_or] at h
    rw [List.cons_append, items, items, if_neg (Ne.symm h.1), if_neg (Ne.symm h.1), ih h.2,
      List.append_assoc]

/-! ## Items that fit together -/

/-- The text of a plain argument. -/
def Item.text? : Item → Option String
  | .flag _ => none
  | .plain text => some text

/-- The plain arguments among the items. -/
def plains (is : List Item) : List String :=
  is.filterMap Item.text?

/-- The items ask for nothing but settings, for the one of files at most once, and at most one of
them is plain. -/
@[mk_iff]
structure Fits (is : List Item) : Prop where
  known : .flag none ∉ is
  noHelp : .flag (some .help) ∉ is
  noVersion : .flag (some .version) ∉ is
  once : is.count (.flag (some .file)) ≤ 1
  single : (plains is).length ≤ 1

instance (is : List Item) : Decidable (Fits is) :=
  decidable_of_iff _ (fits_iff is).symm

/-- The settings that items ask for. -/
def settings (is : List Item) : Options where
  file := .flag (some .file) ∈ is
  verbosity := is.count (.flag (some .verbose))
  contents := (plains is).head?

/-- What an item asks for where it does not fit. -/
def Item.refusal : Item → Request
  | .flag (some .help) => .help
  | .flag (some .version) => .version
  | _ => .misuse

/-- The first item that does not fit asks for the flag. -/
def AsksFor (f : Flag) (is : List Item) : Prop :=
  ∃ before after, is = before ++ .flag (some f) :: after ∧ Fits before

variable {is : List Item}

theorem not_asksFor_of_notMem {f : Flag} (h : .flag (some f) ∉ is) : ¬AsksFor f is := by
  rintro ⟨before, after, rfl, -⟩
  exact h (by simp)

theorem plains_append (is js : List Item) : plains (is ++ js) = plains is ++ plains js :=
  List.filterMap_append

@[simp]
theorem plains_concat_flag (is : List Item) (f : Option Flag) :
    plains (is ++ [.flag f]) = plains is := by
  rw [plains_append]
  exact List.append_nil _

@[simp]
theorem plains_concat_plain (is : List Item) (text : String) :
    plains (is ++ [.plain text]) = plains is ++ [text] :=
  plains_append is [.plain text]

theorem fits_nil : Fits [] := by
  decide

theorem Fits.of_append {js : List Item} (h : Fits (is ++ js)) : Fits is := by
  have honce := h.once
  have hsingle := h.single
  rw [List.count_append] at honce
  rw [plains_append, List.length_append] at hsingle
  exact ⟨fun hmem => h.known (by simp [hmem]), fun hmem => h.noHelp (by simp [hmem]),
    fun hmem => h.noVersion (by simp [hmem]), by omega, by omega⟩

/-- Behind items that fit, a flag fits that asks for more detail, or for the first time for a
file. -/
theorem Fits.concat_flag_iff (h : Fits is) {f : Option Flag} : Fits (is ++ [.flag f]) ↔
    f = some .verbose ∨ f = some .file ∧ .flag (some .file) ∉ is := by
  constructor
  · rintro ⟨hknown, hhelp, hversion, honce, -⟩
    cases f with
    | none => simp at hknown
    | some f =>
      cases f with
      | file =>
        rw [List.count_append, List.count_singleton_self] at honce
        exact .inr ⟨rfl, List.count_eq_zero.1 (by omega)⟩
      | verbose => exact .inl rfl
      | help => simp at hhelp
      | version => simp at hversion
  · obtain ⟨hknown, hhelp, hversion, honce, hsingle⟩ := h
    rintro (rfl | ⟨rfl, hfile⟩)
    · constructor <;> simpa
    · constructor <;> simp [*, List.count_eq_zero.2]

/-- Behind items that fit, a plain argument fits if it is the first. -/
theorem Fits.concat_plain_iff (h : Fits is) {text : String} :
    Fits (is ++ [.plain text]) ↔ plains is = [] := by
  constructor
  · intro hfits
    have hsingle := hfits.single
    rw [plains_concat_plain, List.length_append, List.length_singleton] at hsingle
    exact List.length_eq_zero_iff.1 (by omega)
  · intro hplains
    obtain ⟨hknown, hhelp, hversion, honce, -⟩ := h
    constructor <;> simp [*]

/-- An item that fits behind items that fit becomes a setting, and any other settles the
request. -/
theorem Fits.receive_cases (h : Fits is) (i : Item) :
    (Fits (is ++ [i]) ∧ (settings is).receive i = .ok (settings (is ++ [i]))) ∨
      ¬Fits (is ++ [i]) ∧ (settings is).receive i = .error i.refusal := by
  cases i with
  | plain text =>
    rw [h.concat_plain_iff]
    cases hplains : plains is <;>
      simp [settings, Options.receive, Options.supply, hplains, Item.refusal]
  | flag f =>
    rw [h.concat_flag_iff]
    cases f with
    | none => simp [Options.receive, Options.raise, Item.refusal]
    | some f =>
      cases f with
      | file =>
        by_cases hfile : .flag (some .file) ∈ is <;>
          simp [settings, Options.receive, Options.raise, hfile, Item.refusal]
      | verbose => simp [settings, Options.receive, Options.raise]
      | _ => simp [Options.receive, Options.raise, Item.refusal]

/-- Behind items that fit, items are taken up to the first that does not fit. -/
theorem Fits.receiveAll_cases {before : List Item} (h : Fits before) (is : List Item) :
    (Fits (before ++ is) ∧
        (settings before).receiveAll is = .ok (settings (before ++ is))) ∨
      ∃ mid i after, is = mid ++ i :: after ∧ Fits (before ++ mid) ∧
        ¬Fits (before ++ mid ++ [i]) ∧
        (settings before).receiveAll is = .error i.refusal := by
  -- An item that fits joins `before`, so the settings are always those of the items taken so far.
  induction is generalizing before with
  | nil => exact .inl ⟨by simpa using h, by simp; rfl⟩
  | cons i is ih =>
    rw [Options.receiveAll_cons]
    rcases h.receive_cases i with ⟨hfits, hok⟩ | ⟨hfits, herror⟩
    · rw [hok]
      rcases ih hfits with ⟨hall, hfold⟩ | ⟨mid, j, after, rfl, hmid, hj, hfold⟩
      · rw [List.append_assoc, List.singleton_append] at hall hfold
        exact .inl ⟨hall, hfold⟩
      · exact .inr ⟨i :: mid, j, after, rfl, by simpa using hmid, by simpa using hj, hfold⟩
    · rw [herror]
      exact .inr ⟨[], i, is, rfl, by simpa using h, by simpa using hfits, rfl⟩

/-- What items ask for. -/
def Request.ofItems (is : List Item) : Request :=
  match Options.initial.receiveAll is with
  | .ok o => .interpret o
  | .error r => r

theorem Request.ofArgs_eq (args : List String) : Request.ofArgs args = .ofItems (items args) := by
  rw [Request.ofArgs, Options.takeAll_eq]
  rfl

/-- Items that fit give settings, and otherwise the first item that does not fit settles the
request. -/
theorem Request.ofItems_cases (is : List Item) :
    (Fits is ∧ Request.ofItems is = .interpret (settings is)) ∨
      ∃ before i after, is = before ++ i :: after ∧ Fits before ∧ ¬Fits (before ++ [i]) ∧
        Request.ofItems is = i.refusal := by
  have hinitial : Options.initial = settings [] := rfl
  unfold Request.ofItems
  rw [hinitial]
  rcases fits_nil.receiveAll_cases is with
    ⟨hfits, hall⟩ | ⟨before, i, after, hsplit, hbefore, hi, hall⟩
  · rw [hall]
    exact .inl ⟨hfits, rfl⟩
  · rw [hall]
    exact .inr ⟨before, i, after, hsplit, hbefore, hi, rfl⟩

theorem Request.ofArgs_of_fits {args : List String} (h : Fits (items args)) :
    Request.ofArgs args = .interpret (settings (items args)) := by
  rw [Request.ofArgs_eq]
  rcases Request.ofItems_cases (items args) with
    ⟨-, hrequest⟩ | ⟨before, i, after, hsplit, -, hi, -⟩
  · exact hrequest
  · rw [hsplit, List.append_cons] at h
    exact absurd h.of_append hi

/-- Arguments that do not fit and ask neither for help nor for the version are wrong. -/
theorem Request.ofArgs_of_not_fits {args : List String} (h : ¬Fits (items args))
    (hhelp : ¬AsksFor .help (items args)) (hversion : ¬AsksFor .version (items args)) :
    Request.ofArgs args = .misuse := by
  rw [Request.ofArgs_eq]
  rcases Request.ofItems_cases (items args) with
    ⟨hfits, -⟩ | ⟨before, i, after, hsplit, hbefore, -, hi⟩
  · exact absurd hfits h
  · rw [hi]
    unfold Item.refusal
    split
    · exact absurd ⟨before, after, hsplit, hbefore⟩ hhelp
    · exact absurd ⟨before, after, hsplit, hbefore⟩ hversion
    · rfl

/-! ## More detail -/

/-- The settings without any detail. -/
def Options.quiet (o : Options) : Options :=
  { o with verbosity := 0 }

/-- The items but those that ask for more detail. -/
def withoutDetail (is : List Item) : List Item :=
  is.filter (· ≠ .flag (some .verbose))

theorem withoutDetail_append (is js : List Item) :
    withoutDetail (is ++ js) = withoutDetail is ++ withoutDetail js :=
  List.filter_append is js

theorem Options.receive_quiet (o : Options) {i : Item} (h : i ≠ .flag (some .verbose)) :
    o.quiet.receive i = (o.receive i).map Options.quiet := by
  cases i with
  | plain text =>
    unfold Options.receive Options.supply
    rw [show o.quiet.contents = o.contents from rfl]
    cases o.contents <;> rfl
  | flag f =>
    cases f with
    | none => rfl
    | some f =>
      cases f with
      | file =>
        unfold Options.receive Options.raise
        rw [show o.quiet.file = o.file from rfl]
        cases o.file <;> rfl
      | verbose => exact absurd rfl h
      | _ => rfl

/-- Up to the detail, items are taken as if none of them asked for more. -/
theorem Options.map_quiet_receiveAll (o : Options) (is : List Item) :
    (o.receiveAll is).map Options.quiet = o.quiet.receiveAll (withoutDetail is) := by
  induction is generalizing o with
  | nil => rfl
  | cons i is ih =>
    unfold withoutDetail at *
    rw [receiveAll_cons]
    by_cases hi : i = .flag (some .verbose)
    -- Such an item is always taken, and the settings it leads to differ in the detail only.
    · subst hi
      rw [List.filter_cons_of_neg (by simp)]
      exact ih { o with verbosity := o.verbosity + 1 }
    · rw [List.filter_cons_of_pos (by simpa using hi), receiveAll_cons, o.receive_quiet hi]
      cases o.receive i with
      | ok o' => exact ih o'
      | error r => rfl

end Reckoner.CommandLine
