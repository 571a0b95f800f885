import Contracts.Proofs.Text.Places

/-!
Ranges of spans, by counting through the spanned text and by looking both ends up.

The position at the start of a span is the count of all that stands before the span. Counting goes
on from there through the spanned text, over line ends or not, and comes to the count of all that
stands before the end, which is what looking the end up comes to as well.
-/

namespace Contracts

lemma slice?_zero (as bs : List Char) : slice? 0 (byteLength as) (as ++ bs) = some as := by
  induction as with
  | nil => cases bs <;> simp [slice?]
  | cons a as ih =>
    have := a.utf8Size_pos
    simp [slice?, ih, this.ne']

/-- Between the offsets of two places is what stands between the places. -/
lemma slice?_append (as bs cs : List Char) :
    slice? (byteLength as) (byteLength (as ++ bs)) (as ++ bs ++ cs) = some bs := by
  induction as with
  | nil => exact slice?_zero bs cs
  | cons a as ih =>
    have hpos := a.utf8Size_pos
    have hstart : a.utf8Size + byteLength as ≠ 0 := by omega
    have hthere : ¬ (a.utf8Size + byteLength as < a.utf8Size ∨
        a.utf8Size + byteLength (as ++ bs) < a.utf8Size + byteLength as) := by
      rw [byteLength_append]
      omega
    rw [List.cons_append, List.cons_append, byteLength_cons, byteLength_cons, slice?,
      if_neg hstart, if_neg hthere, Nat.add_sub_cancel_left, Nat.add_sub_cancel_left]
    exact ih

/-- **Ends of spans.** Counting through a span from the position of its start comes to the position
of its end. So a span has the range of the location with the same two ends. -/
theorem end_of_span (text : String) (s : Span) (horder : s.start ≤ s.stop)
    (hstart : IsBoundary text.toList s.start) (hstop : IsBoundary text.toList s.stop) :
    let lines := Lines.ofText text.toList
    s.endPosition text.toList (lines.position s.start) = lines.position s.stop ∧
      s.range text.toList (lines.position s.start) = (lines.location s.start s.stop).range := by
  intro lines
  have hend : s.endPosition text.toList (lines.position s.start) = lines.position s.stop := by
    obtain ⟨before, middle, after, htext, hbefore, hmiddle⟩ := exists_cut horder hstart hstop
    have hfrom : lines.position s.start = (⟨1, 1⟩ : Position).past before := by
      show (Lines.ofText text.toList).position _ = _
      rw [htext, ← hbefore, List.append_assoc, position_byteLength]
    have hto : lines.position s.stop = (⟨1, 1⟩ : Position).past (before ++ middle) := by
      show (Lines.ofText text.toList).position _ = _
      rw [htext, ← hmiddle, position_byteLength]
    have hslice : slice? s.start s.stop text.toList = some middle := by
      rw [htext, ← hbefore, ← hmiddle, slice?_append]
    rw [Span.endPosition, hslice, Option.getD_some, hfrom, hto, past_append]
  exact ⟨hend, congrArg (fun p => Range.mk _ (Position.point p)) hend⟩

/-- A span from behind a character of two bytes to the start of the next line. -/
theorem end_of_span_unicode :
    let text := "aé b\r\nc"
    let lines := Lines.ofText text.toList
    let s : Span := ⟨3, 7⟩
    s.start ≤ s.stop ∧ IsBoundary text.toList s.start ∧ IsBoundary text.toList s.stop ∧
      s.range text.toList (lines.position s.start) = ⟨⟨0, 2⟩, ⟨1, 0⟩⟩ := by
  intro text lines s
  have horder : s.start ≤ s.stop := by decide
  have hstart : IsBoundary text.toList s.start := ⟨"aé".toList, by decide, by decide⟩
  have hstop : IsBoundary text.toList s.stop := ⟨"aé b\r\n".toList, by decide, by decide⟩
  refine ⟨horder, hstart, hstop, ?_⟩
  rw [(end_of_span text s horder hstart hstop).2]
  decide

end Contracts
