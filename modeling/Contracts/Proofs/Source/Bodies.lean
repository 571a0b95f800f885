import Contracts.Proofs.Source.Closed

/-!
Bodies, as the parser reads them and as they are spelled.

The parser takes several characters at a time where the rules for balanced texts take one: a name,
or the word `call` with the name behind it. None of these characters is a quote or a brace, so the
text behind them is as balanced as it was before them. In a closed text no quote is left over for a
single character, and every piece that the parser takes up is balanced.
-/

namespace Contracts

open Spelling

/-! ### Pieces of balanced texts -/

namespace Spelling

variable {c c₁ c₂ c' : Cursor} {ch : Char} {s : List Char} {text name : String}

lemma Balanced.trans (h : Balanced c c₁) (h' : Balanced c₁ c') : Balanced c c' := by
  induction h with
  | nothing => exact h'
  | block opening inside closing _ _ ih => exact .block opening inside closing (ih h')
  | docString here _ ih => exact .docString here (ih h')
  | literal here _ ih => exact .literal here (ih h')
  | comment here _ ih => exact .comment here (ih h')
  | character here hch plain _ ih => exact .character here hch plain (ih h')

lemma balanced_of_run (hs : ∀ x ∈ s, Token.isIdentChar x = true) (here : c.Spells s c') :
    Balanced c c' := by
  induction s generalizing c with
  | nil =>
    obtain rfl : c' = c := (Cursor.spells_iff.mp here).2
    exact .nothing _
  | cons x xs ih =>
    obtain ⟨hquote, hslash, hopen, hclose⟩ := isIdentChar_ne (hs x List.mem_cons_self)
    obtain ⟨c₁, first, more⟩ := Cursor.spells_append (s := [x]).mp here
    exact .character first ⟨hopen, hclose, hquote⟩ (first.plain hslash)
      (ih (fun y hy => hs y (List.mem_cons_of_mem x hy)) more)

lemma Gap.balanced (h : Gap c c') : Balanced c c' := by
  induction h with
  | nothing => exact .nothing _
  | @blank c c₁ c' ch hch here more ih =>
    have hplain : (ch ≠ '{' ∧ ch ≠ '}' ∧ ch ≠ '"') ∧ ch ≠ '/' := by
      rcases hch with rfl | rfl | rfl | rfl <;> decide
    exact .character here hplain.1 (here.plain hplain.2) ih
  | comment here more ih => exact .comment here ih

lemma Comment.ahead (h : Comment c c') : ['/', '/'] <+: c.rest := by
  obtain ⟨-, here, -⟩ := h
  exact ⟨_, here.1.symm⟩

lemma Comment.unique (h : Comment c c₁) (h' : Comment c c₂) : c₁ = c₂ := by
  obtain ⟨t, ht, here⟩ := comment_iff.mp h
  obtain ⟨t', ht', here'⟩ := comment_iff.mp h'
  obtain rfl : t = t' := Option.some.inj (ht.symm.trans ht')
  exact here.unique here'

lemma Comment.head (h : Comment c c') : c.rest.head? = some '/' := by
  obtain ⟨-, here, -⟩ := h
  exact here.head

lemma DocString.head (h : DocString text c c') : c.rest.head? = some '"' := by
  obtain ⟨more, hmore⟩ := h.quotes_ahead
  rw [← hmore]
  rfl

lemma Quoted.head (h : Quoted text c c') : c.rest.head? = some '"' := h.here.head

lemma Body.head (h : Body c c') : c.rest.head? = some '{' := by
  obtain ⟨opening, -⟩ := h
  exact opening.head

/-- Behind a plain character a balanced text is balanced as well. -/
lemma Balanced.skip (h : Balanced c c') (hend : c'.rest.head? = some '}') (here : c.Spells [ch] c₁)
    (hch : (ch ≠ '{' ∧ ch ≠ '}' ∧ ch ≠ '"') ∧ ch ≠ '/') : Balanced c₁ c' := by
  obtain ⟨⟨hopen, hclose, hquote⟩, hslash⟩ := hch
  have hhead := here.head
  cases h with
  | nothing => exact absurd (Option.some.inj (hhead.symm.trans hend)) hclose
  | block opening => exact absurd (Option.some.inj (hhead.symm.trans opening.head)) hopen
  | docString h => exact absurd (Option.some.inj (hhead.symm.trans h.head)) hquote
  | literal h => exact absurd (Option.some.inj (hhead.symm.trans h.quoted.head)) hquote
  | comment h => exact absurd (Option.some.inj (hhead.symm.trans h.head)) hslash
  | character here' hch' plain more =>
    obtain rfl := Option.some.inj (hhead.symm.trans here'.head)
    exact here'.unique here ▸ more

lemma Balanced.skip_run (h : Balanced c c') (hend : c'.rest.head? = some '}')
    (hs : ∀ x ∈ s, Token.isIdentChar x = true) (here : c.Spells s c₁) : Balanced c₁ c' := by
  induction s generalizing c with
  | nil =>
    obtain rfl : c₁ = c := (Cursor.spells_iff.mp here).2
    exact h
  | cons x xs ih =>
    obtain ⟨hquote, hslash, hopen, hclose⟩ := isIdentChar_ne (hs x List.mem_cons_self)
    obtain ⟨c₂, first, more⟩ := Cursor.spells_append (s := [x]).mp here
    exact ih (h.skip hend first ⟨⟨hopen, hclose, hquote⟩, hslash⟩)
      (fun y hy => hs y (List.mem_cons_of_mem x hy)) more

lemma Balanced.skip_comment (h : Balanced c c') (hend : c'.rest.head? = some '}')
    (here : Comment c c₁) : Balanced c₁ c' := by
  have hhead := here.head
  cases h with
  | nothing => cases hhead.symm.trans hend
  | block opening => cases hhead.symm.trans opening.head
  | docString h => cases hhead.symm.trans h.head
  | literal h => cases hhead.symm.trans h.quoted.head
  | comment here' more => exact here'.unique here ▸ more
  | character here' hch plain more => exact absurd here.ahead plain

lemma Balanced.skip_gap (h : Balanced c c') (hend : c'.rest.head? = some '}') (gap : Gap c c₁) :
    Balanced c₁ c' := by
  induction gap with
  | nothing => exact h
  | @blank c c₁ c₂ ch hch here more ih =>
    refine ih (h.skip hend here ?_)
    rcases hch with rfl | rfl | rfl | rfl <;> decide
  | comment here more ih => exact ih (h.skip_comment hend here)

/-- A balanced text that is not over goes on with anything but a closing brace. -/
lemma Balanced.eq_or_head (h : Balanced c c') :
    c = c' ∨ ∃ ch, c.rest.head? = some ch ∧ ch ≠ '}' := by
  cases h with
  | nothing => exact .inl rfl
  | block opening => exact .inr ⟨_, opening.head, by decide⟩
  | docString here => exact .inr ⟨_, here.head, by decide⟩
  | literal here => exact .inr ⟨_, here.quoted.head, by decide⟩
  | comment here => exact .inr ⟨_, here.head, by decide⟩
  | character here hch => exact .inr ⟨_, here.head, hch.2.1⟩

lemma Ident.balanced (h : Ident name c c') : Balanced c c' :=
  balanced_of_run h.isIdentChar h.spells

lemma Gap.length_le (h : Gap c c') : c'.rest.length ≤ c.rest.length := by
  induction h with
  | nothing => exact Nat.le_refl _
  | blank _ here _ ih => exact ih.trans (here.length_lt (by simp)).le
  | comment here _ ih =>
    obtain ⟨-, here, -⟩ := here
    exact ih.trans (here.length_lt (by simp)).le

end Spelling

/-! ### The parser of bodies -/

namespace Grammar

open Contracts.Parser

variable {lines : Lines} {inner : Parser (List CallSite)} {c c' : Cursor} {calls : List CallSite}
  {name text : String} {u : Unit}

lemma isIdentChar_call : ∀ x ∈ "call".toList, Token.isIdentChar x = true :=
  List.all_eq_true.mp (by decide)

lemma gives_callSite {call : CallSite} : (callSite lines).Gives c call c' ↔ ∃ name c₁ c₂,
    Word "call" c c₁ ∧ Gap c₁ c₂ ∧ Ident name c₂ c' ∧
      call = ⟨name, lines.location c.offset c'.offset⟩ := by
  simp only [callSite, gives_bind, gives_offset, gives_keyword, gives_gap, gives_identifier,
    gives_pure]
  constructor
  · rintro ⟨_, _, ⟨rfl, rfl⟩, -, c₁, hword, -, c₂, ⟨hgap, -⟩, name, _, hname, _, _, ⟨rfl, rfl⟩,
      rfl, rfl⟩
    exact ⟨name, c₁, c₂, hword, hgap, hname, rfl⟩
  · rintro ⟨name, c₁, c₂, hword, hgap, hname, rfl⟩
    exact ⟨_, _, ⟨rfl, rfl⟩, (), c₁, hword, (), c₂, ⟨hgap, hname.gapEnd⟩, name, c', hname, _, _,
      ⟨rfl, rfl⟩, rfl, rfl⟩

/-- The pieces of a body, in the order in which they are tried. -/
lemma gives_bodyItem : (bodyItem lines inner).Gives c calls c' ↔
    (∃ call, (callSite lines).Gives c call c' ∧ [call] = calls) ∨
    ((callSite lines).Fails c ∧ (inner.Gives c calls c' ∨
    (inner.Fails c ∧ ((∃ text, docString.Gives c text c' ∧ [] = calls) ∨
    (docString.Fails c ∧ ((∃ u, comment.Gives c u c' ∧ [] = calls) ∨
    (comment.Fails c ∧ ((∃ name, identifier.Gives c name c' ∧ [] = calls) ∨
    (identifier.Fails c ∧ ∃ u, filler.Gives c u c' ∧ [] = calls))))))))) := by
  simp only [bodyItem, gives_orElse, gives_map, fails_map]

lemma consumes_docString : docString.Consumes := by
  intro c text c' h
  rcases gives_orElse.mp h with h | ⟨-, h⟩
  · exact (gives_tripleQuoted.mp h).here.length_lt (by simp [quotes])
  · exact (gives_string.mp h).here.length_lt (by simp)

lemma consumes_bodyItem (hinner : inner.Consumes) : (bodyItem lines inner).Consumes := by
  intro c calls c' h
  obtain ⟨call, h, -⟩ | ⟨-, h | ⟨-, ⟨text, h, -⟩ | ⟨-, ⟨u, h, -⟩ | ⟨-, ⟨name, h, -⟩ |
    ⟨-, u, h, -⟩⟩⟩⟩⟩ := gives_bodyItem.mp h
  · obtain ⟨name, c₁, c₂, hword, hgap, hname, -⟩ := gives_callSite.mp h
    exact (hname.length_lt.trans_le hgap.length_le).trans (hword.here.length_lt (by decide))
  · exact hinner c calls c' h
  · exact consumes_docString c text c' h
  · obtain ⟨-, here, -⟩ := gives_comment.mp h
    exact here.length_lt (by simp)
  · exact (gives_identifier.mp h).length_lt
  · obtain ⟨ch, here, -⟩ := gives_filler.mp h
    exact here.length_lt (by simp)

lemma gives_bodyWithin_succ {depth : Nat}
    (hitem : (bodyItem lines (bodyWithin lines depth)).Consumes) :
    (bodyWithin lines (depth + 1)).Gives c calls c' ↔ ∃ c₁ parts c₂, c.Spells ['{'] c₁ ∧
      Repeats (bodyItem lines (bodyWithin lines depth)) c₁ parts c₂ ∧ c₂.Spells ['}'] c' ∧
      parts.flatten = calls := by
  simp only [bodyWithin, gives_bind, gives_literal, gives_many hitem, gives_pure]
  constructor
  · rintro ⟨-, c₁, opening, parts, c₂, hparts, -, _, closing, rfl, rfl⟩
    exact ⟨c₁, parts, c₂, opening, hparts, closing, rfl⟩
  · rintro ⟨c₁, parts, c₂, opening, hparts, closing, rfl⟩
    exact ⟨(), c₁, opening, parts, c₂, hparts, (), c', closing, rfl, rfl⟩

lemma consumes_bodyWithin (depth : Nat) : (bodyWithin lines depth).Consumes := by
  induction depth with
  | zero => exact fun _ _ _ h => absurd h not_gives_missing
  | succ depth ih =>
    intro c calls c' h
    have hitem : (bodyItem lines (bodyWithin lines depth)).Consumes := consumes_bodyItem ih
    obtain ⟨c₁, parts, c₂, opening, hparts, closing, -⟩ := (gives_bodyWithin_succ hitem).mp h
    have h₁ := opening.length_lt (by simp)
    have h₂ := hparts.length_le hitem
    have h₃ := closing.length_lt (by simp)
    omega

/-- A character is left for itself only where neither a string nor a comment begins. -/
lemma plain_of_fails {ch : Char} (hc : c.Closed) (hstring : docString.Fails c)
    (hcomment : comment.Fails c) (hhead : c.rest.head? = some ch) :
    ch ≠ '"' ∧ ¬ ['/', '/'] <+: c.rest := by
  constructor
  · rintro rfl
    obtain ⟨text, c₁, hg⟩ := exists_gives_docString hc hhead
    exact hg.not_fails hstring
  · intro hslashes
    obtain ⟨c₁, hcomment'⟩ := exists_comment hslashes
    exact (gives_comment (u := ()).mpr hcomment').not_fails hcomment

/-- What the parser of bodies gives in a closed text is balanced. -/
lemma spelled_bodyItem (hc : c.Closed) (h : (bodyItem lines inner).Gives c calls c')
    (hinner : inner.Gives c calls c' → Body c c') : Balanced c c' := by
  obtain ⟨call, h, -⟩ | ⟨-, h | ⟨-, ⟨text, h, -⟩ | ⟨hstring, ⟨u, h, -⟩ | ⟨hcomment, ⟨name, h, -⟩ |
    ⟨-, u, h, -⟩⟩⟩⟩⟩ := gives_bodyItem.mp h
  · obtain ⟨name, c₁, c₂, hword, hgap, hname, -⟩ := gives_callSite.mp h
    exact (balanced_of_run isIdentChar_call hword.here).trans (hgap.balanced.trans hname.balanced)
  · exact (hinner h).balanced
  · rcases spelled_docString hc h with h | h
    · exact .docString h (.nothing c')
    · exact .literal h (.nothing c')
  · exact .comment (gives_comment.mp h) (.nothing c')
  · exact (gives_identifier.mp h).balanced
  · obtain ⟨ch, here, hopen, hclose⟩ := gives_filler.mp h
    obtain ⟨hquote, plain⟩ := plain_of_fails hc hstring hcomment here.head
    exact .character here ⟨hopen, hclose, hquote⟩ plain (.nothing c')

lemma spelled_bodyWithin {depth : Nat} (hc : c.Closed)
    (h : (bodyWithin lines depth).Gives c calls c') : Body c c' := by
  induction depth generalizing c calls c' with
  | zero => exact absurd h not_gives_missing
  | succ depth ih =>
    obtain ⟨c₁, parts, c₂, opening, hparts, closing, -⟩ :=
      (gives_bodyWithin_succ (consumes_bodyItem (consumes_bodyWithin depth))).mp h
    have hinside : Balanced c₁ c₂ := by
      have hc₁ := hc.after_plain opening (by decide)
      clear h opening closing
      induction hparts with
      | stop => exact .nothing _
      | round hitem _ ihParts =>
        have hpiece := spelled_bodyItem hc₁ hitem (ih hc₁)
        exact hpiece.trans (ihParts (hpiece.closed hc₁))
    exact ⟨opening, hinside, closing⟩

lemma spelled_body (hc : c.Closed) (h : (body lines).Gives c calls c') : Body c c' :=
  spelled_bodyWithin hc h

/-! ### Every body is read -/

/-- What comes first in a piece that a parser of bodies can take up. -/
lemma head_of_callSite {call : CallSite} (h : (callSite lines).Gives c call c') :
    c.rest.head? = some 'c' := by
  obtain ⟨name, c₁, c₂, hword, -⟩ := gives_callSite.mp h
  exact hword.here.head

lemma head_of_bodyWithin {depth : Nat} (h : (bodyWithin lines depth).Gives c calls c') :
    c.rest.head? = some '{' := by
  cases depth with
  | zero => exact absurd h not_gives_missing
  | succ depth =>
    obtain ⟨c₁, parts, c₂, opening, -⟩ :=
      (gives_bodyWithin_succ (consumes_bodyItem (consumes_bodyWithin depth))).mp h
    exact opening.head

lemma head_of_docString (h : docString.Gives c text c') : c.rest.head? = some '"' := by
  rcases gives_orElse.mp h with h | ⟨-, h⟩
  · exact (gives_tripleQuoted.mp h).head
  · exact (gives_string.mp h).head

section

variable {ch : Char} {depth : Nat}

lemma fails_callSite (hhead : c.rest.head? = some ch) (hch : ch ≠ 'c') : (callSite lines).Fails c :=
  fails_iff.mpr fun _ _ h => hch (Option.some.inj (hhead.symm.trans (head_of_callSite h)))

lemma fails_bodyWithin (hhead : c.rest.head? = some ch) (hch : ch ≠ '{') :
    (bodyWithin lines depth).Fails c :=
  fails_iff.mpr fun _ _ h => hch (Option.some.inj (hhead.symm.trans (head_of_bodyWithin h)))

lemma fails_docString (hhead : c.rest.head? = some ch) (hch : ch ≠ '"') : docString.Fails c :=
  fails_iff.mpr fun _ _ h => hch (Option.some.inj (hhead.symm.trans (head_of_docString h)))

/-- The piece of a body that is read first leaves the rest of it balanced. -/
lemma exists_bodyItem (hbalanced : Balanced c c') (hend : c'.rest.head? = some '}')
    (hhead : c.rest.head? = some ch) (hch : ch ≠ '}')
    (hinner : ∀ c₁ c₂ c₃, c.Spells ['{'] c₁ → Balanced c₁ c₂ → c₂.Spells ['}'] c₃ →
      ∃ calls, (bodyWithin lines depth).Gives c calls c₃) :
    ∃ calls c₁, (bodyItem lines (bodyWithin lines depth)).Gives c calls c₁ ∧ Balanced c₁ c' := by
  have hcases := hbalanced
  cases hcases with
  | nothing => exact absurd (Option.some.inj (hhead.symm.trans hend)) hch
  | block opening inside closing more =>
    obtain ⟨calls, hg⟩ := hinner _ _ _ opening inside closing
    refine ⟨calls, _, gives_bodyItem.mpr ?_, more⟩
    exact .inr ⟨fails_callSite opening.head (by decide), .inl hg⟩
  | @docString c c₁ c' text here more =>
    refine ⟨[], c₁, gives_bodyItem.mpr ?_, more⟩
    exact .inr ⟨fails_callSite here.head (by decide), .inr ⟨fails_bodyWithin here.head (by decide),
      .inl ⟨text, gives_docString_of_docString here, rfl⟩⟩⟩
  | @literal c c₁ c' text here more =>
    refine ⟨[], c₁, gives_bodyItem.mpr ?_, more⟩
    exact .inr ⟨fails_callSite here.quoted.head (by decide),
      .inr ⟨fails_bodyWithin here.quoted.head (by decide),
      .inl ⟨text, gives_docString_of_literal here, rfl⟩⟩⟩
  | @comment c c₁ c' here more =>
    refine ⟨[], c₁, gives_bodyItem.mpr ?_, more⟩
    exact .inr ⟨fails_callSite here.head (by decide), .inr ⟨fails_bodyWithin here.head (by decide),
      .inr ⟨fails_docString here.head (by decide), .inl ⟨(), gives_comment.mpr here, rfl⟩⟩⟩⟩
  | @character c c₁ c' ch' here hch' plain more =>
    obtain ⟨hopen, hclose, hquote⟩ := hch'
    rcases fails_or_gives (callSite lines) c with hcall | ⟨call, c₂, hcall⟩
    · have hbody : (bodyWithin lines depth).Fails c := fails_bodyWithin here.head hopen
      have hstring := fails_docString here.head hquote
      have hcomment : comment.Fails c :=
        fails_iff.mpr fun _ _ h => plain (gives_comment.mp h).ahead
      rcases fails_or_gives identifier c with hname | ⟨name, c₂, hname⟩
      · refine ⟨[], c₁, gives_bodyItem.mpr ?_, more⟩
        exact .inr ⟨hcall, .inr ⟨hbody, .inr ⟨hstring, .inr ⟨hcomment, .inr ⟨hname, (),
          gives_filler.mpr ⟨ch', here, hopen, hclose⟩, rfl⟩⟩⟩⟩⟩
      · have hident := gives_identifier.mp hname
        refine ⟨[], c₂, gives_bodyItem.mpr ?_,
          hbalanced.skip_run hend hident.isIdentChar hident.spells⟩
        exact .inr ⟨hcall, .inr ⟨hbody, .inr ⟨hstring, .inr ⟨hcomment, .inl ⟨name, hname, rfl⟩⟩⟩⟩⟩
    · refine ⟨[call], c₂, gives_bodyItem.mpr (.inl ⟨call, hcall, rfl⟩), ?_⟩
      obtain ⟨name, c₃, c₄, hword, hgap, hident, -⟩ := gives_callSite.mp hcall
      have hafter := (hbalanced.skip_run hend isIdentChar_call hword.here).skip_gap hend hgap
      exact hafter.skip_run hend hident.isIdentChar hident.spells

/-- A closing brace ends a body. -/
lemma fails_bodyItem (hend : c.rest.head? = some '}') :
    (bodyItem lines (bodyWithin lines depth)).Fails c := by
  refine fails_iff.mpr fun calls c' h => ?_
  obtain ⟨call, h, -⟩ | ⟨-, h | ⟨-, ⟨text, h, -⟩ | ⟨-, ⟨u, h, -⟩ | ⟨-, ⟨name, h, -⟩ |
    ⟨-, u, h, -⟩⟩⟩⟩⟩ := gives_bodyItem.mp h
  · cases hend.symm.trans (head_of_callSite h)
  · cases hend.symm.trans (head_of_bodyWithin h)
  · cases hend.symm.trans (head_of_docString h)
  · cases hend.symm.trans (gives_comment.mp h).head
  · obtain ⟨ch, hhead, hstart⟩ := (gives_identifier.mp h).head
    cases Option.some.inj (hend.symm.trans hhead)
    exact absurd hstart (by decide)
  · obtain ⟨ch, here, -, hclose⟩ := gives_filler.mp h
    exact hclose (Option.some.inj (here.head.symm.trans hend))

/-- By induction on the length of the text ahead: it is shorter inside of a body, and shorter behind
each piece that is read. -/
lemma exists_parts (hdepth : c.rest.length ≤ depth) (hbalanced : Balanced c c')
    (hend : c'.rest.head? = some '}') :
    ∃ parts, Repeats (bodyItem lines (bodyWithin lines depth)) c parts c' := by
  induction hn : c.rest.length using Nat.strong_induction_on generalizing depth c c' with
  | _ n ih =>
    subst hn
    rcases hbalanced.eq_or_head with rfl | ⟨ch, hhead, hch⟩
    · exact ⟨[], .stop (fails_bodyItem hend)⟩
    · have hinner : ∀ c₁ c₂ c₃, c.Spells ['{'] c₁ → Balanced c₁ c₂ → c₂.Spells ['}'] c₃ →
          ∃ calls, (bodyWithin lines depth).Gives c calls c₃ := by
        intro c₁ c₂ c₃ opening inside closing
        have hshorter := opening.length_lt (by simp)
        obtain ⟨depth, rfl⟩ := Nat.exists_eq_succ_of_ne_zero (n := depth) (by omega)
        have hwithin : c₁.rest.length ≤ depth := by omega
        obtain ⟨parts, hparts⟩ := ih _ hshorter hwithin inside closing.head rfl
        exact ⟨_, (gives_bodyWithin_succ (consumes_bodyItem (consumes_bodyWithin depth))).mpr
          ⟨c₁, parts, c₂, opening, hparts, closing, rfl⟩⟩
      obtain ⟨calls, c₁, hitem, hmore⟩ := exists_bodyItem hbalanced hend hhead hch hinner
      have hshorter := consumes_bodyItem (consumes_bodyWithin depth) c calls c₁ hitem
      obtain ⟨parts, hparts⟩ := ih _ hshorter (hshorter.le.trans hdepth) hmore hend rfl
      exact ⟨calls :: parts, .round hitem hparts⟩

/-- **Completeness**: every body is read, however deep it is nested. -/
lemma exists_gives_body (h : Body c c') : ∃ calls, (body lines).Gives c calls c' := by
  obtain ⟨opening, inside, closing⟩ := h
  have hlength := opening.length
  rw [List.length_singleton, Nat.add_comm] at hlength
  obtain ⟨parts, hparts⟩ : ∃ parts, Repeats (bodyItem lines (bodyWithin lines _)) _ parts _ :=
    exists_parts (Nat.le_refl _) inside closing.head
  refine ⟨parts.flatten, ?_⟩
  show (bodyWithin lines c.rest.length).Gives c parts.flatten c'
  rw [hlength]
  exact (gives_bodyWithin_succ (consumes_bodyItem (consumes_bodyWithin _))).mpr
    ⟨_, parts, _, opening, hparts, closing, rfl⟩

end

end Grammar

end Contracts
