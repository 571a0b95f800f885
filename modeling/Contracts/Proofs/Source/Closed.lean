import Contracts.Proofs.Source.Lexing

/-!
Texts in which every string is closed, as the pre-scan sees them.

The pre-scan cuts a text without regard to the grammar. Wherever it is at the beginning of one of
its tokens, so is the grammar, and what follows a token of a closed text is closed again. The one
exception is an empty string with a quote right behind it, where the pre-scan sees a documentation
string: a string that does not begin with three quotes is no such case.
-/

namespace Contracts

open Spelling

/-- What the pre-scan takes for a token is a beginning of the text. -/
lemma Token.text_of_read {ch : Char} {cs : List Char} {token : Token}
    (h : Token.read ch cs = .ok token) : token.text ≠ [] ∧ token.text <+: ch :: cs := by
  unfold Token.read at h
  split at h
  · next t ht =>
    obtain ⟨rest, hcs, s, rfl, -⟩ := Token.comment?_eq_some.mp ht
    cases h
    exact ⟨by simp [Token.text], rest, hcs.symm⟩
  split at h
  · split at h
    · next t ht =>
      obtain ⟨rest, hcs, s, rfl, -⟩ := Token.docString?_eq_some.mp ht
      cases h
      exact ⟨by simp [Token.text, quotes], rest, hcs.symm⟩
    · cases h
  split at h
  · split at h
    · next t ht =>
      obtain ⟨rest, hcs, s, rfl, -⟩ := Token.string?_eq_some.mp (Token.string?_true ht)
      cases h
      exact ⟨by simp [Token.text], rest, hcs.symm⟩
    · cases h
  · cases h
    exact ⟨by simp [Token.text], cs, rfl⟩

/-- What the pre-scan finds does not depend on where the text begins. -/
lemma tokensFrom_congr (cs : List Char) (m n : Nat) : (tokensFrom m cs).1 = (tokensFrom n cs).1 ∧
    ((tokensFrom m cs).2 = none ↔ (tokensFrom n cs).2 = none) := by
  fun_induction tokensFrom m cs generalizing n with
  | case1 => simp [tokensFrom]
  | case2 m ch cs kind hread => simp [tokensFrom, hread]
  | case3 m ch cs token hread tokens failure hfrom ih =>
    have hrest := ih (n + byteLength token.text)
    rw [hfrom] at hrest
    rw [tokensFrom, hread]
    exact ⟨congrArg (token :: ·) hrest.1, hrest.2⟩

namespace Cursor

variable {c c₁ c' : Cursor} {ch : Char} {s : List Char} {text : String} {token : Token}

/-- Every string from the cursor on is closed. -/
def Closed (c : Cursor) : Prop := openString? c.rest = none

lemma closed_cons {cs : List Char} (hrest : c.rest = ch :: cs) : c.Closed ↔
    ∃ token, Token.read ch cs = .ok token ∧
      openString? (cs.drop (token.text.length - 1)) = none := by
  unfold Closed openString?
  rw [hrest, tokensFrom]
  cases hread : Token.read ch cs with
  | error kind => simp
  | ok token =>
    simp only [Except.ok.injEq, exists_eq_left']
    exact (tokensFrom_congr _ _ _).2

/-- The pre-scan takes the text between two cursors for one token. -/
structure Reads (c : Cursor) (token : Token) (c' : Cursor) : Prop where
  here : c.Spells token.text c'
  text_ne : token.text ≠ []
  read : ∀ ch cs, c.rest = ch :: cs → Token.read ch cs = .ok token

namespace Reads

lemma exists_rest (h : c.Reads token c') : ∃ ch cs, c.rest = ch :: cs ∧
    Token.read ch cs = .ok token ∧ cs.drop (token.text.length - 1) = c'.rest := by
  obtain ⟨ch, s, htext⟩ := List.exists_cons_of_ne_nil h.text_ne
  have hrest : c.rest = ch :: (s ++ c'.rest) := by rw [h.here.1, htext, List.cons_append]
  exact ⟨ch, _, hrest, h.read ch _ hrest, by simp [htext]⟩

/-- What the pre-scan takes for one token leaves a closed text closed. -/
lemma closed (h : c.Reads token c') (hc : c.Closed) : c'.Closed := by
  obtain ⟨ch, cs, hrest, hread, hdrop⟩ := h.exists_rest
  obtain ⟨token', hread', hclosed⟩ := (closed_cons hrest).mp hc
  obtain rfl : token = token' := Except.ok.inj (hread.symm.trans hread')
  rwa [hdrop] at hclosed

lemma tokens_eq (h : c.Reads token c') : tokens c.rest = token :: tokens c'.rest := by
  obtain ⟨ch, cs, hrest, hread, hdrop⟩ := h.exists_rest
  unfold tokens
  rw [hrest, tokensFrom, hread]
  dsimp only
  rw [hdrop, (tokensFrom_congr c'.rest _ 0).1]

end Reads

/-! ### What the pre-scan takes for one token -/

private lemma comment?_eq_none {cs : List Char} (plain : ¬ ['/', '/'] <+: cs) :
    Token.comment? cs = none := by
  unfold Token.comment?
  split
  · exact absurd ⟨_, rfl⟩ plain
  · rfl

/-- Any character but a quote is one for itself where no comment begins. -/
lemma reads_character (here : c.Spells [ch] c') (hquote : ch ≠ '"')
    (plain : ¬ ['/', '/'] <+: c.rest) : c.Reads (.character ch) c' := by
  refine ⟨here, by simp [Token.text], fun x cs hrest => ?_⟩
  obtain rfl : ch = x := by
    rw [here.1] at hrest
    exact (List.cons.inj hrest).1
  rw [hrest] at plain
  rw [Token.read, comment?_eq_none plain]
  simp only [List.isPrefixOf_iff_prefix, List.cons_prefix_cons, Ne.symm hquote, hquote, false_and,
    if_false]

/-- A character other than a slash begins no comment. -/
lemma Spells.plain (here : c.Spells (ch :: s) c') (hslash : ch ≠ '/') :
    ¬ ['/', '/'] <+: c.rest := by
  rintro ⟨t, ht⟩
  rw [here.1] at ht
  exact hslash (List.cons.inj ht).1.symm

lemma reads_comment (here : c.Spells s c') (hs : Token.comment? c.rest = some s) :
    c.Reads (.comment s) c' := by
  refine ⟨here, ?_, fun x cs hrest => ?_⟩
  · obtain ⟨_, -, t, rfl, -⟩ := Token.comment?_eq_some.mp hs
    simp [Token.text]
  · rw [Token.read, ← hrest, hs]

/-- No comment begins with a quote. -/
private lemma comment?_quote {cs : List Char} : Token.comment? ('"' :: cs) = none :=
  comment?_eq_none (by simp)

/-- The pre-scan takes three quotes for the beginning of a documentation string. -/
lemma read_quotes {cs : List Char} (h : quotes <+: ch :: cs) : Token.read ch cs =
    match Token.docString? (ch :: cs) with
    | some text => .ok (.docString text)
    | none => .error .docString := by
  obtain ⟨rfl, -⟩ : '"' = ch ∧ _ := List.cons_prefix_cons.mp h
  have hahead : ['"', '"', '"'].isPrefixOf ('"' :: cs) = true := List.isPrefixOf_iff_prefix.mpr h
  rw [Token.read, comment?_quote]
  exact if_pos hahead

/-- The pre-scan takes any other quote for the beginning of a string. -/
lemma read_quote {cs : List Char} (h : ¬ quotes <+: '"' :: cs) : Token.read '"' cs =
    match Token.string? false ('"' :: cs) with
    | some text => .ok (.string text)
    | none => .error .string := by
  have hahead : ['"', '"', '"'].isPrefixOf ('"' :: cs) = false := by
    rw [Bool.eq_false_iff, ne_eq, List.isPrefixOf_iff_prefix]
    exact h
  rw [Token.read, comment?_quote]
  exact (if_neg (Bool.eq_false_iff.mp hahead)).trans (if_pos rfl)

lemma reads_docString (h : DocString text c c') :
    c.Reads (.docString (quotes ++ text.toList ++ quotes)) c' := by
  refine ⟨h.here, by simp [Token.text, quotes], fun x cs hrest => ?_⟩
  have hdocString : Token.docString? c.rest = some (quotes ++ text.toList ++ quotes) :=
    Token.docString?_eq_some.mpr ⟨_, h.here.1, _, rfl, h.first⟩
  have hquotes : quotes <+: x :: cs := hrest ▸ h.quotes_ahead
  rw [read_quotes hquotes, ← hrest, hdocString]

/-- A string on one line is one for the pre-scan. -/
lemma reads_oneLine (h : Literal text c c') (hline : '\n' ∉ text.toList) :
    c.Reads (.string ('"' :: text.toList ++ ['"'])) c' := by
  obtain ⟨⟨quotable, here⟩, single⟩ := h
  have hstring : Token.string? false c.rest = some ('"' :: text.toList ++ ['"']) :=
    Token.string?_oneLine.mpr ⟨_, here.1, _, rfl, quotable, hline⟩
  refine ⟨here, by simp [Token.text], fun x cs hrest => ?_⟩
  obtain rfl : '"' = x := by
    rw [here.1] at hrest
    exact (List.cons.inj hrest).1
  rw [hrest] at single hstring
  rw [read_quote single, hstring]

/-- A string that is closed for the pre-scan ends where it ends for the grammar. -/
lemma Closed.reads_literal (hc : c.Closed) (h : Literal text c c') :
    c.Reads (.string ('"' :: text.toList ++ ['"'])) c' := by
  obtain ⟨⟨quotable, here⟩, single⟩ := h
  have hstring : Token.string? true c.rest = some ('"' :: text.toList ++ ['"']) :=
    Token.string?_eq_some.mpr ⟨_, here.1, _, rfl, quotable⟩
  refine ⟨here, by simp [Token.text], fun x cs hrest => ?_⟩
  obtain rfl : '"' = x := by
    rw [here.1] at hrest
    exact (List.cons.inj hrest).1
  rw [hrest] at single
  obtain ⟨token, hread, -⟩ := (closed_cons hrest).mp hc
  rw [hread]
  rw [read_quote single] at hread
  split at hread
  · next t ht =>
    rw [← hrest] at ht
    cases Option.some.inj ((Token.string?_true ht).symm.trans hstring)
    exact hread.symm
  · cases hread

/-- What a token spells. -/
lemma Reads.spelled (h : c.Reads token c') : (Comment c c' ∧ ∃ s, token = .comment s) ∨
    (∃ text, DocString text c c' ∧ ∃ s, token = .docString s) ∨
    (∃ text, Literal text c c' ∧ '\n' ∉ text.toList ∧ ∃ s, token = .string s) ∨
    ∃ ch, token = .character ch ∧ ch ≠ '"' ∧ ¬ ['/', '/'] <+: c.rest ∧ c.Spells [ch] c' := by
  obtain ⟨ch, cs, hrest, hread, -⟩ := h.exists_rest
  have here := h.here
  unfold Token.read at hread
  rw [← hrest] at hread
  -- what a reader refuses is known to those behind it, and is what the last one leaves
  split at hread
  · next t ht =>
    cases hread
    exact .inl ⟨comment_iff.mpr ⟨t, ht, here⟩, t, rfl⟩
  next hnone =>
  split at hread
  · split at hread
    · next t ht =>
      cases hread
      obtain ⟨-, -, s, rfl, first⟩ := Token.docString?_eq_some.mp ht
      refine .inr (.inl ⟨String.ofList s, ⟨?_, ?_⟩, _, rfl⟩)
      · simpa using first
      · simpa [Token.text] using here
    · cases hread
  next hsingle =>
  rw [List.isPrefixOf_iff_prefix] at hsingle
  split at hread
  · split at hread
    · next t ht =>
      cases hread
      obtain ⟨-, -, s, rfl, quotable, hline⟩ := Token.string?_oneLine.mp ht
      refine .inr (.inr (.inl ⟨String.ofList s, ⟨⟨?_, ?_⟩, hsingle⟩, ?_, _, rfl⟩))
      · simpa using quotable
      · simpa [Token.text] using here
      · simpa using hline
    · cases hread
  next hother =>
  cases hread
  refine .inr (.inr (.inr ⟨ch, rfl, hother, fun hslashes => ?_, here⟩))
  obtain ⟨c₁, hcomment⟩ := exists_comment hslashes
  obtain ⟨s, hs, -⟩ := comment_iff.mp hcomment
  rw [hnone] at hs
  cases hs

/-! ### What follows a token of a closed text -/

lemma Closed.after_plain (hc : c.Closed) (here : c.Spells [ch] c') (hch : ch ≠ '"' ∧ ch ≠ '/') :
    c'.Closed := (reads_character here hch.1 (here.plain hch.2)).closed hc

lemma Closed.after_comment (hc : c.Closed) (h : Comment c c') : c'.Closed := by
  obtain ⟨t, ht, here⟩ := comment_iff.mp h
  exact (reads_comment here ht).closed hc

lemma Closed.after_docString (hc : c.Closed) (h : DocString text c c') : c'.Closed :=
  (reads_docString h).closed hc

lemma Closed.after_literal (hc : c.Closed) (h : Literal text c c') : c'.Closed :=
  (hc.reads_literal h).closed hc

/-- Three quotes in a closed text begin a documentation string. -/
lemma Closed.exists_docString (hc : c.Closed) (h : quotes <+: c.rest) :
    ∃ text c', DocString text c c' := by
  obtain ⟨more, hmore⟩ := h
  obtain ⟨token, hread, -⟩ := (closed_cons hmore.symm).mp hc
  rw [read_quotes (List.prefix_append quotes more)] at hread
  split at hread
  · next t ht =>
    obtain ⟨rest, hrest, s, rfl, first⟩ := Token.docString?_eq_some.mp ht
    refine ⟨String.ofList s, c.after (quotes ++ s ++ quotes), ?_, ?_⟩
    · simpa using first
    · simpa using spells_after (c := c) ⟨rest, hrest.symm.trans hmore⟩
  · cases hread

/-- A quote in a closed text begins a string, if it is not the first of three. -/
lemma Closed.exists_literal (hc : c.Closed) (hquote : c.rest.head? = some '"')
    (single : ¬ quotes <+: c.rest) : ∃ text c', Literal text c c' := by
  obtain ⟨cs, hrest⟩ : ∃ cs, c.rest = '"' :: cs := List.head?_eq_some_iff.mp hquote
  obtain ⟨token, hread, -⟩ := (closed_cons hrest).mp hc
  rw [read_quote (hrest ▸ single)] at hread
  split at hread
  · next t ht =>
    obtain ⟨rest, hcs, s, rfl, quotable⟩ := Token.string?_eq_some.mp (Token.string?_true ht)
    refine ⟨String.ofList s, c.after ('"' :: s ++ ['"']), ⟨?_, ?_⟩, single⟩
    · simpa using quotable
    · simpa using spells_after (c := c) ⟨rest, hcs.symm.trans hrest.symm⟩
  · cases hread

end Cursor

/-! ### What is spelled in a closed text -/

namespace Spelling

open Cursor

variable {c c₁ c' : Cursor} {ch : Char} {s : List Char} {text name word : String}

lemma isIdentChar_ne (h : Token.isIdentChar ch = true) :
    ch ≠ '"' ∧ ch ≠ '/' ∧ ch ≠ '{' ∧ ch ≠ '}' := by
  refine ⟨?_, ?_, ?_, ?_⟩ <;> rintro rfl <;> revert h <;> decide

lemma closed_of_run (hs : ∀ x ∈ s, Token.isIdentChar x = true) (here : c.Spells s c')
    (hc : c.Closed) : c'.Closed := by
  induction s generalizing c with
  | nil =>
    obtain rfl : c' = c := (spells_iff.mp here).2
    exact hc
  | cons x xs ih =>
    obtain ⟨hquote, hslash, -⟩ := isIdentChar_ne (hs x List.mem_cons_self)
    obtain ⟨c₁, first, more⟩ : ∃ c₁, c.Spells [x] c₁ ∧ c₁.Spells xs c' :=
      spells_append (s := [x]).mp here
    have hc₁ := hc.after_plain first ⟨hquote, hslash⟩
    exact ih (fun y hy => hs y (List.mem_cons_of_mem x hy)) more hc₁

lemma Word.closed (h : Word word c c') (hword : word.toList.all Token.isIdentChar = true)
    (hc : c.Closed) : c'.Closed :=
  closed_of_run (List.all_eq_true.mp hword) h.here hc

lemma Ident.closed (h : Ident name c c') (hc : c.Closed) : c'.Closed :=
  closed_of_run h.isIdentChar h.spells hc

lemma Gap.closed (h : Gap c c') (hc : c.Closed) : c'.Closed := by
  induction h with
  | nothing => exact hc
  | blank hch here more ih =>
    refine ih (hc.after_plain here ?_)
    rcases hch with rfl | rfl | rfl | rfl <;> decide
  | comment here more ih => exact ih (hc.after_comment here)

/-- A string that is followed by no quote unless it has a text between its own. -/
lemma Quoted.literal (h : Quoted text c c') (hend : text = "" → c'.rest.head? ≠ some '"') :
    Literal text c c' := by
  refine ⟨h, ?_⟩
  obtain ⟨quotable, here⟩ := h
  rintro ⟨t, ht⟩
  rw [here.1] at ht
  cases htext : text.toList with
  | nil =>
    rw [htext] at ht
    have hrest : '"' :: t = c'.rest := by simpa [quotes] using ht
    exact hend (String.toList_eq_nil_iff.mp htext) (by rw [← hrest]; rfl)
  | cons x xs =>
    rw [htext] at ht quotable
    obtain rfl : '"' = x := by simpa [quotes] using (List.cons.inj (List.cons.inj ht).2).1
    cases quotable with
    | plain hch _ => exact hch.1 rfl

lemma Setting.closed (h : Setting word text c c')
    (hword : word.toList.all Token.isIdentChar = true)
    (hend : text = "" → c'.rest.head? ≠ some '"') (hc : c.Closed) : c'.Closed := by
  obtain ⟨⟨hhere, gap₁, equals, gap₂⟩, quoted⟩ := h
  have h₂ := gap₁.closed (closed_of_run (List.all_eq_true.mp hword) hhere hc)
  have h₃ := h₂.after_plain equals (by decide)
  exact (gap₂.closed h₃).after_literal (quoted.literal hend)

lemma Balanced.closed (h : Balanced c c') (hc : c.Closed) : c'.Closed := by
  induction h with
  | nothing => exact hc
  | block opening inside closing more ihInside ihMore =>
    have hinside := ihInside (hc.after_plain opening (by decide))
    exact ihMore (hinside.after_plain closing (by decide))
  | docString here more ih => exact ih (hc.after_docString here)
  | literal here more ih => exact ih (hc.after_literal here)
  | comment here more ih => exact ih (hc.after_comment here)
  | character here hch plain more ih => exact ih ((reads_character here hch.2.2 plain).closed hc)

/-- A body is a balanced text on its own. -/
lemma Body.balanced (h : Body c c') : Balanced c c' := by
  obtain ⟨opening, inside, closing⟩ := h
  exact .block opening inside closing (.nothing _)

lemma Title.closed {title : Option String} (h : Title title c c') (hc : c.Closed) : c'.Closed := by
  cases h with
  | nothing => exact hc
  | docString here gap => exact gap.closed (hc.after_docString here)
  | literal here gap => exact gap.closed (hc.after_literal here)

end Spelling

namespace Grammar

open Contracts.Parser

variable {c c' : Cursor} {text : String}

lemma spelled_docString (hc : c.Closed) (h : docString.Gives c text c') :
    DocString text c c' ∨ Literal text c c' := by
  rcases gives_orElse.mp h with h | ⟨hfails, h⟩
  · exact .inl (gives_tripleQuoted.mp h)
  · refine .inr ⟨gives_string.mp h, fun hquotes => ?_⟩
    obtain ⟨text', c₁, hdocString⟩ := hc.exists_docString hquotes
    exact (gives_tripleQuoted.mpr hdocString).not_fails hfails

lemma gives_docString_of_docString (h : DocString text c c') : docString.Gives c text c' :=
  gives_orElse.mpr (.inl (gives_tripleQuoted.mpr h))

lemma gives_docString_of_literal (h : Literal text c c') : docString.Gives c text c' := by
  refine gives_orElse.mpr (.inr ⟨fails_iff.mpr fun text' c₁ hg => ?_, gives_string.mpr h.quoted⟩)
  exact h.single (gives_tripleQuoted.mp hg).quotes_ahead

/-- A quote in a closed text begins a string of either kind. -/
lemma exists_gives_docString (hc : c.Closed) (hquote : c.rest.head? = some '"') :
    ∃ text c', docString.Gives c text c' := by
  by_cases h : quotes <+: c.rest
  · obtain ⟨text, c', hdocString⟩ := hc.exists_docString h
    exact ⟨text, c', gives_docString_of_docString hdocString⟩
  · obtain ⟨text, c', hliteral⟩ := hc.exists_literal hquote h
    exact ⟨text, c', gives_docString_of_literal hliteral⟩

end Grammar

end Contracts
