import Mathlib.Tactic.Common
import Contracts.Text.Split

/-!
Where a text is cut: at the separator that stands between two parts, as long as the part it is
looked for from holds none.
-/

namespace Contracts

variable {sep : Char} {a b c cs : List Char} {parts : List (List Char)}

lemma splitFirst_append (h : sep ∉ a) : splitFirst sep (a ++ sep :: b) = some (a, b) := by
  induction a with
  | nil => simp [splitFirst]
  | cons c a ih =>
    rw [List.mem_cons, not_or] at h
    simp [splitFirst, Ne.symm h.1, ih h.2]

lemma splitFirst_eq_none (h : sep ∉ a) : splitFirst sep a = none := by
  induction a with
  | nil => rfl
  | cons c a ih =>
    rw [List.mem_cons, not_or] at h
    simp [splitFirst, Ne.symm h.1, ih h.2]

lemma splitAll_of_notMem (h : sep ∉ a) : splitAll sep a = [a] := by
  induction a with
  | nil => rfl
  | cons c a ih =>
    rw [List.mem_cons, not_or] at h
    simp [splitAll, Ne.symm h.1, ih h.2]

lemma splitAll_append (h : sep ∉ a) : splitAll sep (a ++ sep :: b) = a :: splitAll sep b := by
  induction a with
  | nil => simp [splitAll]
  | cons c a ih =>
    rw [List.mem_cons, not_or] at h
    simp [splitAll, Ne.symm h.1, ih h.2]

/-- A text is cut at its first separator, where it has one. -/
lemma splitFirst_eq_some_iff : splitFirst sep cs = some (a, b) ↔ cs = a ++ sep :: b ∧ sep ∉ a := by
  constructor
  · intro h
    by_cases hmem : sep ∈ cs
    · obtain ⟨front, rest, rfl, hfront⟩ := List.eq_append_cons_of_mem hmem
      rw [splitFirst_append hfront] at h
      cases h
      exact ⟨rfl, hfront⟩
    · rw [splitFirst_eq_none hmem] at h
      cases h
  · rintro ⟨rfl, h⟩
    exact splitFirst_append h

/-- The first part is all of the text, or what stands before its first separator. -/
lemma splitAll_eq_cons_iff : splitAll sep cs = a :: parts ↔
    sep ∉ a ∧ (parts = [] ∧ cs = a ∨ ∃ b, cs = a ++ sep :: b ∧ splitAll sep b = parts) := by
  constructor
  · intro h
    by_cases hmem : sep ∈ cs
    · obtain ⟨front, rest, rfl, hfront⟩ := List.eq_append_cons_of_mem hmem
      rw [splitAll_append hfront] at h
      cases h
      exact ⟨hfront, .inr ⟨rest, rfl, rfl⟩⟩
    · rw [splitAll_of_notMem hmem] at h
      cases h
      exact ⟨hmem, .inl ⟨rfl, rfl⟩⟩
  · rintro ⟨ha, ⟨rfl, rfl⟩ | ⟨b, rfl, rfl⟩⟩
    · exact splitAll_of_notMem ha
    · exact splitAll_append ha

lemma splitAll_eq_singleton_iff : splitAll sep cs = [a] ↔ sep ∉ a ∧ cs = a := by
  have hne : ∀ b, splitAll sep b ≠ [] := by
    intro b
    by_cases hmem : sep ∈ b
    · obtain ⟨front, rest, rfl, hfront⟩ := List.eq_append_cons_of_mem hmem
      simp [splitAll_append hfront]
    · simp [splitAll_of_notMem hmem]
  rw [splitAll_eq_cons_iff]
  simp [hne]

lemma splitAll_eq_pair_iff :
    splitAll sep cs = [a, b] ↔ sep ∉ a ∧ sep ∉ b ∧ cs = a ++ sep :: b := by
  rw [splitAll_eq_cons_iff]
  simp only [splitAll_eq_singleton_iff, reduceCtorEq, false_and, false_or, and_congr_right_iff]
  exact fun _ => ⟨fun ⟨_, hcut, hb, h⟩ => ⟨hb, h ▸ hcut⟩, fun ⟨hb, hcut⟩ => ⟨b, hcut, hb, rfl⟩⟩

lemma splitAll_eq_triple_iff : splitAll sep cs = [a, b, c] ↔
    sep ∉ a ∧ sep ∉ b ∧ sep ∉ c ∧ cs = a ++ sep :: (b ++ sep :: c) := by
  rw [splitAll_eq_cons_iff]
  simp only [splitAll_eq_pair_iff, reduceCtorEq, false_and, false_or, and_congr_right_iff]
  exact fun _ => ⟨fun ⟨_, hcut, hb, hc, h⟩ => ⟨hb, hc, h ▸ hcut⟩,
    fun ⟨hb, hc, hcut⟩ => ⟨_, hcut, hb, hc, rfl⟩⟩

lemma splitLast_eq_none (h : sep ∉ a) : splitLast sep a = none := by
  induction a with
  | nil => rfl
  | cons c a ih =>
    rw [List.mem_cons, not_or] at h
    simp [splitLast, Ne.symm h.1, ih h.2]

lemma splitLast_append (h : sep ∉ b) : splitLast sep (a ++ sep :: b) = some (a, b) := by
  induction a with
  | nil => simp [splitLast, splitLast_eq_none h]
  | cons c a ih => simp [splitLast, ih]

/-- The last part is what stands behind the last separator. -/
lemma exists_splitAll_eq (h : sep ∉ b) :
    ∃ part parts, splitAll sep (a ++ sep :: b) = part :: parts ++ [b] := by
  induction a with
  | nil => exact ⟨[], [], by simp [splitAll, splitAll_of_notMem h]⟩
  | cons c a ih =>
    obtain ⟨part, parts, heq⟩ := ih
    rw [List.cons_append, splitAll, heq]
    split
    · exact ⟨[], part :: parts, rfl⟩
    · exact ⟨c :: part, parts, rfl⟩

end Contracts
