import Contracts.Proofs.Source.Documents
import Contracts.Proofs.Source.OpenStrings
import Contracts.Proofs.Text.Quoted

/-!
Where the errors of unreadable texts point.

An error cuts its text into three parts, of which it spans the middle one. The pre-scan moves over
whole tokens, so the quotes that it cannot close stand between two of them. The grammar looks at
nothing but what is ahead of its cursor, so what it misses furthest is missed between two
characters, and the span is the character found there, if there is one.
-/

namespace Contracts

open Spelling

variable {cs before spanned after : List Char} {n : Nat}

/-! ### Errors -/

namespace SyntaxError

variable {e : SyntaxError}

/-- A text in three parts, of which the error spans the middle one. -/
structure Cuts (e : SyntaxError) (cs before spanned after : List Char) : Prop where
  text_eq : cs = before ++ spanned ++ after
  start_eq : e.span.start = byteLength before
  stop_eq : e.span.stop = byteLength (before ++ spanned)
  position_eq : e.position = (⟨1, 1⟩ : Position).past before

namespace Cuts

lemma start_le_stop (h : e.Cuts cs before spanned after) : e.span.start ≤ e.span.stop := by
  rw [h.start_eq, h.stop_eq]
  exact byteLength_mono (List.prefix_append _ _)

lemma isBoundary_start (h : e.Cuts cs before spanned after) : IsBoundary cs e.span.start :=
  ⟨before, ⟨spanned ++ after, by rw [h.text_eq, List.append_assoc]⟩, h.start_eq.symm⟩

lemma isBoundary_stop (h : e.Cuts cs before spanned after) : IsBoundary cs e.span.stop :=
  ⟨before ++ spanned, ⟨after, h.text_eq.symm⟩, h.stop_eq.symm⟩

lemma bounds (h : e.Cuts cs before spanned after) : e.span.start ≤ e.span.stop ∧
    e.span.stop ≤ byteLength cs ∧ IsBoundary cs e.span.start ∧ IsBoundary cs e.span.stop :=
  ⟨h.start_le_stop, h.isBoundary_stop.le, h.isBoundary_start, h.isBoundary_stop⟩

lemma isPlace (h : e.Cuts cs before spanned after) : IsPlace cs e.span.start e.position :=
  ⟨before, ⟨spanned ++ after, by rw [h.text_eq, List.append_assoc]⟩, h.start_eq.symm,
    h.position_eq⟩

lemma slice?_eq (h : e.Cuts cs before spanned after) :
    slice? e.span.start e.span.stop cs = some spanned := by
  rw [h.text_eq, h.start_eq, h.stop_eq, slice?_append]

lemma start_eq_stop_iff (h : e.Cuts cs before spanned after) :
    e.span.start = e.span.stop ↔ spanned = [] := by
  rw [h.start_eq, h.stop_eq, eq_comm, byteLength_append_eq_left]

lemma start_eq_length_iff (h : e.Cuts cs before spanned after) :
    e.span.start = byteLength cs ↔ spanned ++ after = [] := by
  rw [h.start_eq, h.text_eq, eq_comm, List.append_assoc, byteLength_append_eq_left]

lemma stop_eq_length_iff (h : e.Cuts cs before spanned after) :
    e.span.stop = byteLength cs ↔ after = [] := by
  rw [h.stop_eq, h.text_eq, eq_comm, byteLength_append_eq_left]

end Cuts

/-- The detail names `c` as what stands where something else was expected. -/
def Names (e : SyntaxError) (c : Char) : Prop :=
  ∃ what, e.detail = "unexpected " ++ quoteChar c ++ ", expected " ++ what

lemma names_unique {c d : Char} (hc : e.Names c) (hd : e.Names d) : c = d := by
  obtain ⟨what, hwhat⟩ := hc
  obtain ⟨other, hother⟩ := hd
  rw [hwhat, String.append_assoc, String.append_assoc, String.append_assoc,
    String.append_assoc] at hother
  exact quoteChar_inj (String.append_right_inj _ |>.mp hother)

/-- An open string is spanned from its quotes to the end of the line, or of the text. -/
lemma cuts_ofOpenString {s : OpenString} (h : openString? cs = some s) :
    let e := ofOpenString (Lines.ofText cs) s
    ∃ before spanned after, e.Cuts cs before spanned after ∧ spanned.head? = some '"' ∧
      (e.detail = "unterminated string literal" ∧ '\n' ∉ spanned ∨
        e.detail = "unterminated documentation string" ∧ quotes <+: spanned ∧
          Token.docString? spanned = none ∧ after = []) := by
  intro e
  obtain ⟨before, after, -, hrest, hcs, hspan, hposition⟩ := exists_spanned h
  have hcuts : e.Cuts cs before (s.kind.spanned s.rest) after :=
    ⟨hcs, congrArg Span.start hspan, congrArg Span.stop hspan, hposition⟩
  have hopen := (openString?_eq_some.mp h).2
  obtain ⟨kind, offset, rest⟩ := s
  dsimp only at hcuts hrest hopen
  cases hopen with
  | docString begins never =>
    obtain rfl : after = [] := List.self_eq_append_right.mp hrest
    refine ⟨before, rest, [], hcuts, ?_, .inr ⟨rfl, ⟨_, begins.symm⟩, ?_, rfl⟩⟩
    · rw [begins]
      rfl
    · rw [begins]
      exact Token.docString?_eq_none.mpr never
  | string begins single never =>
    refine ⟨before, _, after, hcuts, ?_, .inl ⟨rfl, fun hmem => ?_⟩⟩
    · rw [begins]
      rfl
    · simpa using List.mem_takeWhile_imp hmem

lemma charAt?_append (as bs : List Char) : charAt? (byteLength as) (as ++ bs) = bs.head? := by
  induction as with
  | nil => cases bs <;> simp [charAt?]
  | cons a as ih =>
    have hpos := a.utf8Size_pos
    have hne : a.utf8Size + byteLength as ≠ 0 := by omega
    rw [List.cons_append, byteLength_cons, charAt?, if_neg hne, Nat.add_sub_cancel_left, ih]

/-- What the grammar did not expect is spanned and named, if it is not the end of the text. -/
lemma cuts_ofFrontier {f : Frontier} (kind : Kind) (h : Cursor.Bounds ⟨cs, 0⟩ f) :
    let e := ofFrontier (Lines.ofText cs) kind f
    ∃ before spanned after, e.Cuts cs before spanned after ∧
      (spanned = [] ∧ after = [] ∨ ∃ c, spanned = [c] ∧ e.Names c) := by
  intro e
  obtain ⟨before, after, rfl, hoffset⟩ := h.cut
  have hfound : charAt? f.offset (Lines.ofText (before ++ after)).text = after.head? := by
    rw [hoffset]
    exact charAt?_append before after
  have hposition : e.position = (⟨1, 1⟩ : Position).past before := by
    show Lines.position _ f.offset = _
    rw [hoffset, position_byteLength]
  have hstop : e.span.stop = byteLength before + after.head?.elim 0 Char.utf8Size := by
    show f.offset + _ = _
    rw [hfound, hoffset]
  cases after with
  | nil =>
    exact ⟨before, [], [], ⟨by simp, hoffset, by simpa using hstop, hposition⟩, .inl ⟨rfl, rfl⟩⟩
  | cons c after =>
    have hdetail : e.detail = "unexpected " ++ quoteChar c ++ ", expected " ++
        expectedText f.expected := by
      simp only [e, ofFrontier, hfound, List.head?_cons]
    exact ⟨before, [c], after, ⟨by simp, hoffset, by simpa using hstop, hposition⟩,
      .inr ⟨c, rfl, _, hdetail⟩⟩

end SyntaxError

/-- Reading a text ends with the error of the pre-scan, if there is one, or that of the grammar. -/
lemma readTree_eq_error {kind : Kind} {text : String} {e : SyntaxError}
    (h : readTree kind text = .error e) :
    let lines := Lines.ofText text.toList
    (∃ s, openString? text.toList = some s ∧ e = .ofOpenString lines s) ∨
      e = .ofFrontier lines kind (Grammar.document lines kind ⟨text.toList, 0⟩).frontier := by
  have htext : (Lines.ofText text.toList).text = text.toList := rfl
  unfold readTree at h
  dsimp only at h ⊢
  rw [htext] at h
  cases hopen : openString? text.toList with
  | some s =>
    rw [hopen] at h
    exact .inl ⟨s, rfl, (Except.error.inj h).symm⟩
  | none =>
    rw [hopen] at h
    rcases hreply : Grammar.document (Lines.ofText text.toList) kind ⟨text.toList, 0⟩ with
      ⟨frontier, _ | ⟨tree, c⟩⟩ <;> rw [hreply] at h
    · exact .inr (Except.error.inj h).symm
    · cases h

/-- **Errors point into the text.** The span of an error lies between two places of the text, and
its position is that of the first. The grammar spans the one character that it names, and nothing at
the end of the text. The pre-scan spans open quotes and the line behind them, or all of the text
behind them if they are three. -/
theorem error_points_into_text (kind : Kind) (text : String) (e : SyntaxError)
    (h : readTree kind text = .error e) :
    (e.span.start ≤ e.span.stop ∧ e.span.stop ≤ byteLength text.toList ∧
      IsBoundary text.toList e.span.start ∧ IsBoundary text.toList e.span.stop) ∧
    IsPlace text.toList e.span.start e.position ∧
    (e.category = .parser →
      (e.span.start = e.span.stop ↔ e.span.start = byteLength text.toList) ∧
      (e.span.start ≠ e.span.stop → ∃ c,
        slice? e.span.start e.span.stop text.toList = some [c] ∧ ∀ d, e.Names d ↔ d = c)) ∧
    (e.category = .lexer → ∃ spanned,
      slice? e.span.start e.span.stop text.toList = some spanned ∧ spanned.head? = some '"' ∧
      (e.detail = "unterminated string literal" ∧ '\n' ∉ spanned ∨
        e.detail = "unterminated documentation string" ∧ quotes <+: spanned ∧
          Token.docString? spanned = none ∧ e.span.stop = byteLength text.toList)) := by
  obtain ⟨s, hopen, rfl⟩ | rfl := readTree_eq_error h
  · obtain ⟨before, spanned, after, hcuts, hhead, hkind⟩ := SyntaxError.cuts_ofOpenString hopen
    rw [← hcuts.stop_eq_length_iff] at hkind
    have hlexer : (SyntaxError.ofOpenString (Lines.ofText text.toList) s).category = .lexer := by
      unfold SyntaxError.ofOpenString
      split <;> rfl
    refine ⟨hcuts.bounds, hcuts.isPlace, fun hparser => ?_,
      fun _ => ⟨spanned, hcuts.slice?_eq, hhead, hkind⟩⟩
    rw [hlexer] at hparser
    cases hparser
  · obtain ⟨before, spanned, after, hcuts, hfound⟩ :=
      SyntaxError.cuts_ofFrontier kind (Grammar.stays_document kind _).frontier
    refine ⟨hcuts.bounds, hcuts.isPlace, fun _ => ?_, fun hlexer => nomatch hlexer⟩
    rw [hcuts.start_eq_length_iff, ne_eq, hcuts.start_eq_stop_iff]
    obtain ⟨rfl, rfl⟩ | ⟨c, rfl, hnames⟩ := hfound
    · exact ⟨⟨fun _ => rfl, fun _ => rfl⟩, fun hne => absurd rfl hne⟩
    · refine ⟨by simp, fun _ => ⟨c, hcuts.slice?_eq, fun d => ⟨fun hd => ?_, ?_⟩⟩⟩
      · exact SyntaxError.names_unique hd hnames
      · rintro rfl
        exact hnames

/-- A profile with a model whose name begins with a character of two bytes. -/
def strayText : String := "name = \"weather\"\nversion = \"1.0.0\"\n// é\nmodel é"

theorem error_names_stray : ∃ e, readTree .profile strayText = .error e ∧ e.category = .parser ∧
    e.span = ⟨47, 49⟩ ∧ e.position = ⟨4, 7⟩ ∧ e.Names 'é' := by
  have herror : (match readTree .profile strayText with
      | .error e => some (e.category, e.span, e.position)
      | .ok _ => none) = some (.parser, ⟨47, 49⟩, ⟨4, 7⟩) := by decide +kernel
  cases h : readTree .profile strayText with
  | ok t =>
    rw [h] at herror
    cases herror
  | error e =>
    rw [h, Option.some.injEq, Prod.mk.injEq, Prod.mk.injEq] at herror
    obtain ⟨hcategory, hspan, hposition⟩ := herror
    obtain ⟨-, -, hparser, -⟩ := error_points_into_text .profile strayText e h
    obtain ⟨c, hslice, hnames⟩ := (hparser hcategory).2 (by rw [hspan]; decide)
    have hspanned : slice? 47 49 strayText.toList = some ['é'] := by decide +kernel
    rw [hspan, hspanned, Option.some.injEq, List.cons.injEq] at hslice
    exact ⟨e, rfl, hcategory, hspan, hposition, (hnames 'é').mpr hslice.1⟩

end Contracts
