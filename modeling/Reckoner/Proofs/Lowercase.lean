import Reckoner.Store

/-!
# Lower case of lower case

A text in lower case stays as it is when it is put into lower case again
(`lowercase_lowercase`), so the key of a name is its own key (`key_key`).

A character is settled (`Settled`) when no stretch of upper-case characters holds it and it is
not the capital I with a dot above. Settled characters are left alone wherever they stand. The
capital sigma is not one of them, so its rule, the only one that looks at what is around a
character, does not apply to a text of settled characters. Every character that lower-casing
puts into a text is settled. For the characters of a stretch that is a fact about the table :
no stretch holds an image of another. It is checked for two stretches at a time, by their ends
(`Stretch.clears`).
-/

namespace Reckoner.Text

/-! ## Images and stretches -/

/-- No image of `s` is held by `s'` : the images lie before the stretch, or behind it, or all
of them between its code points. -/
def Stretch.clears (s s' : Stretch) : Bool :=
  s'.last.blt s.image || (s.map s.last).blt s'.first ||
    (s.first == s.last || s.stride == 2) && s'.stride == 2 && (s.image + s'.first) % 2 == 1

theorem Stretch.holds_iff {s : Stretch} {n : Nat} :
    s.holds n ↔ s.first ≤ n ∧ n ≤ s.last ∧ (n - s.first) % s.stride = 0 := by
  simp [holds, and_assoc]

theorem Stretch.holds_map_of_clears {s s' : Stretch} (h : s.clears s') {n : Nat}
    (hn : s.holds n) : s'.holds (s.map n) = false := by
  rw [← Bool.not_eq_true]
  intro hm
  rw [holds_iff] at hn hm
  simp only [clears, map, Bool.or_eq_true, Bool.and_eq_true, Nat.blt_eq, beq_iff_eq] at h hm
  obtain (hbehind | hbefore) | ⟨⟨heven, hstride⟩, hparity⟩ := h
  · omega
  · omega
  · rw [hstride] at hm
    rcases heven with hpoint | heven
    · omega
    · rw [heven] at hn
      omega

/-- No stretch holds an image of another. -/
theorem all_clears : (upperStretches.all fun s => upperStretches.all s.clears) = true := by
  decide +kernel

/-- The images are code points of characters, and none is the capital I with a dot above. -/
theorem all_images : ∀ s ∈ upperStretches,
    (s.map s.last < 0xD800 ∨ 0xDFFF < s.image ∧ s.map s.last < 0x110000) ∧
      (s.map s.last < 0x130 ∨ 0x130 < s.image) := by
  decide +kernel

/-! ## Settled characters -/

/-- The character has no other lower-case form. -/
structure Settled (c : Char) : Prop where
  notDotted : c ≠ 'İ'
  notHeld : ∀ s ∈ upperStretches, s.holds c.toNat = false

/-- The capital sigma is held by a stretch. -/
theorem Settled.ne_sigma {c : Char} (h : Settled c) : c ≠ 'Σ' := by
  rintro rfl
  have hheld : upperStretches.any (·.holds 'Σ'.toNat) = true := by decide +kernel
  obtain ⟨s, hs, hholds⟩ := List.any_eq_true.1 hheld
  rw [h.notHeld s hs] at hholds
  cases hholds

/-- The image of a stretch at one of its code points is settled. -/
theorem settled_map {s : Stretch} (hs : s ∈ upperStretches) {n : Nat} (hn : s.holds n) :
    Settled (Char.ofNat (s.map n)) := by
  obtain ⟨hvalid, hdotted⟩ := all_images s hs
  have hbounds : s.image ≤ s.map n ∧ s.map n ≤ s.map s.last := by
    rw [Stretch.holds_iff] at hn
    simp only [Stretch.map]
    omega
  have hchar : (s.map n).isValidChar := by
    simp only [Nat.isValidChar]
    omega
  have htoNat : (Char.ofNat (s.map n)).toNat = s.map n := by
    rw [Char.ofNat, dif_pos hchar]
    rfl
  refine ⟨fun heq => ?_, fun s' hs' => ?_⟩
  · have hnat : s.map n = 0x130 := by rw [← htoNat, heq]; rfl
    omega
  · have hclears := List.all_eq_true.1 (List.all_eq_true.1 all_clears s hs) s' hs'
    rw [htoNat]
    exact Stretch.holds_map_of_clears hclears hn

theorem settled_lowerChar {c : Char} (h : c ≠ 'İ') : Settled (lowerChar c) := by
  unfold lowerChar
  cases hfind : upperStretches.find? (·.holds c.toNat) with
  | some s =>
    have hholds : s.holds c.toNat = true := by simpa using List.find?_some hfind
    exact settled_map (List.mem_of_find?_eq_some hfind) hholds
  | none => exact ⟨h, fun s hs => by simpa using List.find?_eq_none.1 hfind s hs⟩

theorem lowerChar_of_settled {c : Char} (h : Settled c) : lowerChar c = c := by
  have hnone : upperStretches.find? (·.holds c.toNat) = none := by
    rw [List.find?_eq_none]
    intro s hs
    simp [h.notHeld s hs]
  rw [lowerChar, hnone]

/-- What the capital I with a dot above and the capital sigma become is settled. -/
theorem settled_special : ∀ c ∈ ['i', '\u0307', 'ς', 'σ'], Settled c := by
  intro c hc
  simp only [List.mem_cons, List.not_mem_nil, or_false] at hc
  rcases hc with rfl | rfl | rfl | rfl <;> exact ⟨by decide, by decide +kernel⟩

/-- What becomes of a character is settled. -/
theorem settled_of_mem_lowerIn {before after : List Char} {c d : Char}
    (h : d ∈ lowerIn before c after) : Settled d := by
  unfold lowerIn at h
  split at h
  · exact settled_special d (by grind)
  · next hdotted =>
    split at h
    · refine settled_special d ?_
      split at h <;> grind
    · rw [List.mem_singleton.1 h]
      exact settled_lowerChar hdotted

theorem lowerIn_of_settled {c : Char} (h : Settled c) (before after : List Char) :
    lowerIn before c after = [c] := by
  rw [lowerIn, if_neg h.notDotted, if_neg h.ne_sigma, lowerChar_of_settled h]

/-! ## Texts -/

theorem settled_of_mem_lowerFrom {before cs : List Char} {d : Char}
    (h : d ∈ lowerFrom before cs) : Settled d := by
  induction cs generalizing before with
  | nil => simp [lowerFrom] at h
  | cons c cs ih =>
    rw [lowerFrom, List.mem_append] at h
    rcases h with h | h
    · exact settled_of_mem_lowerIn h
    · exact ih h

theorem lowerFrom_of_settled {cs : List Char} (h : ∀ c ∈ cs, Settled c) (before : List Char) :
    lowerFrom before cs = cs := by
  induction cs generalizing before with
  | nil => rfl
  | cons c cs ih =>
    rw [List.forall_mem_cons] at h
    rw [lowerFrom, lowerIn_of_settled h.1, ih h.2]
    rfl

/-- Lower case is its own lower case. -/
theorem lowercase_lowercase (text : String) : lowercase (lowercase text) = lowercase text := by
  simp only [lowercase, String.toList_ofList]
  rw [lowerFrom_of_settled fun _ hd => settled_of_mem_lowerFrom hd]

end Reckoner.Text

namespace Reckoner

/-- The key of a name is its own key. -/
theorem key_key (name : String) : key (key name) = key name :=
  Text.lowercase_lowercase name

end Reckoner
