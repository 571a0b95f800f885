import Mathlib.Tactic.Common
import Mathlib.Data.List.Induction
import Mathlib.Data.List.TakeWhile
import Contracts.Text.Lines
import Contracts.Editor.Range

/-!
The position of a byte offset against a plain count through the text.

The lines that start at or before an offset are those behind the line feeds that stand before it,
and the last of them holds the characters since. So between two characters of a text the position is
what counting from its start comes to.
-/

namespace Contracts

variable {as bs seen : List Char} {n offset : Nat} {l : Line}

/-- The characters of `as` end where it ends, and the next one ends behind that. -/
lemma charsBefore_append : charsBefore (offset + byteLength as) offset (as ++ bs) = as.length := by
  induction as generalizing offset with
  | nil =>
    cases bs with
    | nil => rfl
    | cons b bs =>
      have := b.utf8Size_pos
      simp [charsBefore]
      omega
  | cons a as ih =>
    have hstart : offset + byteLength (a :: as) = offset + a.utf8Size + byteLength as := by
      simp [Nat.add_assoc]
    rw [hstart, List.cons_append, charsBefore, if_pos (Nat.le_add_right _ _), ih]
    rfl

lemma lt_start_of_mem (h : l ∈ linesFrom n as) : n < l.start := by
  induction as generalizing n with
  | nil => cases h
  | cons a as ih =>
    have := a.utf8Size_pos
    unfold linesFrom at h
    split at h
    · rcases List.mem_cons.mp h with rfl | h
      · exact Nat.lt_succ_self n
      · exact (Nat.lt_succ_self n).trans (ih h)
    · exact (Nat.lt_add_of_pos_right this).trans (ih h)

lemma takeWhile_linesFrom : (linesFrom n as).takeWhile (·.start ≤ n) = [] := by
  cases h : linesFrom n as with
  | nil => rfl
  | cons l ls =>
    have := lt_start_of_mem (l := l) (by rw [h]; exact List.mem_cons_self)
    simp [this]

/-- What stands before a line feed is not on the last line. -/
lemma lastLine_feed : (seen ++ '\n' :: as).reverse.takeWhile (· != '\n') =
    ([] ++ as).reverse.takeWhile (· != '\n') := by
  rw [List.reverse_append, List.reverse_cons, List.append_assoc, List.takeWhile_append,
    List.nil_append]
  split
  · next h =>
    rw [(List.takeWhile_prefix _).eq_of_length h]
    simp
  · rfl

lemma lastLine_of_notMem (h : '\n' ∉ as) : as.reverse.takeWhile (· != '\n') = as.reverse := by
  refine List.takeWhile_eq_self_iff.mpr fun a ha => ?_
  simp only [bne_iff_ne]
  rintro rfl
  exact h (List.mem_reverse.mp ha)

/-- The line at the end of `as`, where `seen` is what stands of it before `as`. -/
lemma lines_upTo (hl : l.rest = seen ++ as ++ bs) (hstart : l.start + byteLength seen = n)
    (hseen : '\n' ∉ seen) :
    let found := (linesFrom n (as ++ bs)).takeWhile (·.start ≤ n + byteLength as)
    let line := found.getLastD l
    found.length = as.count '\n' ∧ charsBefore (n + byteLength as) line.start line.rest =
      ((seen ++ as).reverse.takeWhile (· != '\n')).length := by
  induction as generalizing n l seen with
  | nil =>
    rw [byteLength_nil, Nat.add_zero, takeWhile_linesFrom, List.append_nil,
      lastLine_of_notMem hseen]
    refine ⟨rfl, ?_⟩
    show charsBefore n l.start l.rest = _
    rw [hl, ← hstart, List.append_nil, charsBefore_append, List.length_reverse]
  | cons a as ih =>
    rw [List.cons_append, linesFrom]
    by_cases ha : a = '\n'
    · subst ha
      have hend : n + byteLength ('\n' :: as) = n + 1 + byteLength as := by
        simp [Nat.add_assoc]
        rfl
      rw [if_pos rfl, hend, List.takeWhile_cons_of_pos (by simp), lastLine_feed]
      obtain ⟨hlength, hcount⟩ := @ih [] (n + 1) ⟨n + 1, as ++ bs⟩ rfl rfl List.not_mem_nil
      refine ⟨by rw [List.length_cons, hlength, List.count_cons_self], ?_⟩
      rw [List.getLastD_cons]
      exact hcount
    · have hend : n + byteLength (a :: as) = n + a.utf8Size + byteLength as := by
        simp [Nat.add_assoc]
      have happend : seen ++ a :: as = seen ++ [a] ++ as := by simp
      rw [if_neg ha, hend, List.count_cons_of_ne ha, happend]
      refine ih ?_ ?_ ?_
      · rw [hl, happend]
      · simp [← hstart, Nat.add_assoc]
      · simpa [hseen] using Ne.symm ha

/-! ### Counting on -/

lemma lastLine_append_of_mem (h : '\n' ∈ bs) : (as ++ bs).reverse.takeWhile (· != '\n') =
    bs.reverse.takeWhile (· != '\n') := by
  rw [List.reverse_append, List.takeWhile_append]
  split
  · next hall =>
    have heq := (List.takeWhile_prefix (· != '\n')).eq_of_length hall
    have hne := List.takeWhile_eq_self_iff.mp heq '\n' (List.mem_reverse.mpr h)
    simp at hne
  · rfl

lemma lastLine_append_of_notMem (h : '\n' ∉ bs) : (as ++ bs).reverse.takeWhile (· != '\n') =
    bs.reverse ++ as.reverse.takeWhile (· != '\n') := by
  rw [List.reverse_append, List.takeWhile_append_of_pos]
  intro b hb
  simp only [bne_iff_ne]
  rintro rfl
  exact h (List.mem_reverse.mp hb)

/-- Counting may stop anywhere and go on from there. -/
lemma past_append (p : Position) (as bs : List Char) : p.past (as ++ bs) = (p.past as).past bs := by
  simp only [Position.past, List.count_append]
  by_cases hbs : '\n' ∈ bs
  · have hcount : bs.count '\n' ≠ 0 := (List.count_pos_iff.mpr hbs).ne'
    have hboth : as.count '\n' + bs.count '\n' ≠ 0 := by omega
    rw [if_neg hboth, if_neg hcount, lastLine_append_of_mem hbs]
    split <;> simp only [Position.mk.injEq, and_true] <;> omega
  · have hcount : bs.count '\n' = 0 := List.count_eq_zero.mpr hbs
    rw [hcount, Nat.add_zero, if_pos rfl, lastLine_append_of_notMem hbs]
    split <;> simp only [List.length_append, List.length_reverse, Position.mk.injEq, true_and] <;>
      omega

/-! ### The last line -/

/-- A text is its last line behind lines that end in a line feed. -/
lemma exists_lastLine (as : List Char) :
    ∃ front tail, as = front ++ tail ∧ (front = [] ∨ ['\n'] <:+ front) ∧ '\n' ∉ tail := by
  induction as using List.reverseRecOn with
  | nil => exact ⟨[], [], rfl, .inl rfl, List.not_mem_nil⟩
  | append_singleton as a ih =>
    by_cases ha : a = '\n'
    · subst ha
      exact ⟨as ++ ['\n'], [], (List.append_nil _).symm, .inr ⟨as, rfl⟩, List.not_mem_nil⟩
    · obtain ⟨front, tail, rfl, hfront, htail⟩ := ih
      refine ⟨front, tail ++ [a], List.append_assoc .., hfront, ?_⟩
      simpa [htail] using Ne.symm ha

lemma lastLine_eq {front tail : List Char} (hfront : front = [] ∨ ['\n'] <:+ front)
    (htail : '\n' ∉ tail) :
    (front ++ tail).reverse.takeWhile (· != '\n') = tail.reverse := by
  rcases hfront with rfl | ⟨lines, rfl⟩
  · exact lastLine_of_notMem htail
  · rw [List.append_assoc, List.singleton_append, lastLine_feed, List.nil_append,
      lastLine_of_notMem htail]

lemma past_lastLine {front tail : List Char} (hfront : front = [] ∨ ['\n'] <:+ front)
    (htail : '\n' ∉ tail) :
    (⟨1, 1⟩ : Position).past (front ++ tail) = ⟨front.count '\n' + 1, tail.length + 1⟩ := by
  have hcount : (front ++ tail).count '\n' = front.count '\n' := by
    rw [List.count_append, List.count_eq_zero.mpr htail, Nat.add_zero]
  rw [Position.past]
  dsimp only
  rw [hcount, lastLine_eq hfront htail, List.length_reverse]
  rcases hfront with rfl | ⟨lines, rfl⟩
  · simp [Nat.add_comm]
  · rw [if_neg (by simp), Nat.add_comm]

/-- Counting from the start comes to the line behind all line feeds, and there behind all characters
since the last of them. -/
lemma past_start (as : List Char) : (⟨1, 1⟩ : Position).past as =
    ⟨1 + as.count '\n', 1 + (as.reverse.takeWhile (· != '\n')).length⟩ := by
  obtain ⟨front, tail, rfl, hfront, htail⟩ := exists_lastLine as
  rw [past_lastLine hfront htail, lastLine_eq hfront htail, List.count_append,
    List.count_eq_zero.mpr htail, List.length_reverse, Nat.add_comm 1, Nat.add_comm 1, Nat.add_zero]

/-- **Positions between characters.** Behind the characters `as` of a text the position is the one
that counting through them comes to. -/
theorem position_byteLength (as bs : List Char) :
    (Lines.ofText (as ++ bs)).position (byteLength as) = (⟨1, 1⟩ : Position).past as := by
  obtain ⟨hlength, hcount⟩ := @lines_upTo as bs [] 0 ⟨0, as ++ bs⟩ rfl rfl List.not_mem_nil
  rw [Nat.zero_add] at hlength hcount
  rw [past_start, Nat.add_comm 1, Nat.add_comm 1]
  exact congrArg₂ Position.mk (congrArg (· + 1) hlength) (congrArg (· + 1) hcount)

end Contracts
