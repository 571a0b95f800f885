import Contracts.Proofs.Text.Lines

/-!
Places of a text, which lie between two of its characters or at an end of it.

A place is told by its byte offset or by its line and column. Both are counts of the same
characters, those in front of it, so looking a position up by the offset of a place is counting up
to it.
-/

namespace Contracts

variable {as bs cs : List Char} {offset start stop : Nat}

/-- A byte offset between two characters of a text, or at an end of it. -/
def IsBoundary (cs : List Char) (offset : Nat) : Prop :=
  ∃ before, before <+: cs ∧ byteLength before = offset

/-- A byte offset and a position that tell the same place. -/
def IsPlace (cs : List Char) (offset : Nat) (p : Position) : Prop :=
  ∃ before, before <+: cs ∧ byteLength before = offset ∧ p = (⟨1, 1⟩ : Position).past before

lemma byteLength_mono (h : as <+: bs) : byteLength as ≤ byteLength bs := by
  obtain ⟨more, rfl⟩ := h
  simp

/-- Every character takes up a byte at least. -/
lemma byteLength_append_eq_left : byteLength (as ++ bs) = byteLength as ↔ bs = [] := by
  cases bs with
  | nil => simp
  | cons b bs =>
    have := b.utf8Size_pos
    simp only [byteLength_append, byteLength_cons, reduceCtorEq, iff_false]
    omega

lemma eq_of_prefix_of_byteLength_eq (h : as <+: bs) (hlength : byteLength as = byteLength bs) :
    as = bs := by
  obtain ⟨more, rfl⟩ := h
  rw [byteLength_append_eq_left.mp hlength.symm, List.append_nil]

lemma IsBoundary.le {offset : Nat} (h : IsBoundary cs offset) : offset ≤ byteLength cs := by
  obtain ⟨before, hbefore, rfl⟩ := h
  exact byteLength_mono hbefore

lemma isPlace_position (h : IsBoundary cs offset) :
    IsPlace cs offset ((Lines.ofText cs).position offset) := by
  obtain ⟨before, ⟨after, rfl⟩, rfl⟩ := h
  exact ⟨before, List.prefix_append _ _, rfl, position_byteLength before after⟩

/-- Of two places the one with the smaller offset has less of the text in front of it. -/
lemma prefix_of_byteLength_le (has : as <+: cs) (hbs : bs <+: cs)
    (hle : byteLength as ≤ byteLength bs) : as <+: bs := by
  rcases List.prefix_or_prefix_of_prefix has hbs with h | h
  · exact h
  · obtain rfl := eq_of_prefix_of_byteLength_eq h ((byteLength_mono h).antisymm hle)
    exact List.prefix_rfl

/-- Two places, one not behind the other, cut a text into three. -/
lemma exists_cut (h : start ≤ stop) (hstart : IsBoundary cs start) (hstop : IsBoundary cs stop) :
    ∃ before middle after, cs = before ++ middle ++ after ∧ byteLength before = start ∧
      byteLength (before ++ middle) = stop := by
  obtain ⟨before, hbefore, rfl⟩ := hstart
  obtain ⟨upTo, hupTo, rfl⟩ := hstop
  obtain ⟨middle, rfl⟩ := prefix_of_byteLength_le hbefore hupTo h
  obtain ⟨after, rfl⟩ := hupTo
  exact ⟨before, middle, after, rfl, rfl, rfl⟩

/-! ### The order of places -/

/-- One position is not behind another one, by their lines first and then by their columns. -/
def Position.Le (p q : Position) : Prop :=
  p.line < q.line ∨ p.line = q.line ∧ p.column ≤ q.column

lemma Position.le_past (p : Position) (as : List Char) : p.Le (p.past as) := by
  unfold Position.Le Position.past
  dsimp only
  split
  · exact .inr ⟨rfl, Nat.le_add_right _ _⟩
  · next hbreaks => exact .inl (Nat.lt_add_of_pos_right (Nat.pos_of_ne_zero hbreaks))

lemma IsPlace.le {m n : Nat} {p q : Position} (hp : IsPlace cs m p) (hq : IsPlace cs n q)
    (h : m ≤ n) : p.Le q := by
  obtain ⟨before, hbefore, rfl, rfl⟩ := hp
  obtain ⟨upTo, hupTo, rfl, rfl⟩ := hq
  obtain ⟨more, rfl⟩ := prefix_of_byteLength_le hbefore hupTo h
  rw [past_append]
  exact Position.le_past _ more

/-- A place is on one of the lines of its text. -/
lemma IsPlace.line_mem {p : Position} (h : IsPlace cs offset p) :
    1 ≤ p.line ∧ p.line ≤ cs.count '\n' + 1 := by
  obtain ⟨before, hbefore, rfl, rfl⟩ := h
  have hline : ((⟨1, 1⟩ : Position).past before).line = 1 + before.count '\n' := by
    rw [past_start]
  have hcount := hbefore.sublist.count_le '\n'
  omega

end Contracts
