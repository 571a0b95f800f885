import Mathlib.Data.List.TakeWhile
import Contracts.Source.Grammar
import Contracts.Proofs.Source.Outcome

/-!
The tokens of the grammar against the way they are spelled.

What a reader of tokens takes up is described by the token and by the text behind it: a word, a name
or a comment has to end there, a string has its last quote. So a parser of tokens gives exactly what
is spelled at its cursor. A gap is taken up as far as it reaches, which is the only end of a gap
that anything else can follow.
-/

namespace Contracts

open Spelling

section

variable {p : Char → Bool} {s rest : List Char}

private lemma takeWhile_run (hs : ∀ x ∈ s, p x = true) (hrest : ∀ x ∈ rest.head?, p x = false) :
    (s ++ rest).takeWhile p = s := by
  rw [List.takeWhile_append_of_pos hs]
  cases rest with
  | nil => simp
  | cons x xs => simp [hrest x rfl]

private lemma head?_dropWhile_run {x : Char} (hx : x ∈ (rest.dropWhile p).head?) : p x = false := by
  have := List.head?_dropWhile_not p rest
  rw [Option.mem_def.mp hx] at this
  simpa using this

end

namespace Token

variable {cs t : List Char}

/-! ### Readers -/

lemma comment?_eq_some : comment? cs = some t ↔ ∃ rest, cs = t ++ rest ∧
    ∃ s, t = '/' :: '/' :: s ∧ '\n' ∉ s ∧ ∀ ch ∈ rest.head?, ch = '\n' := by
  constructor
  · intro h
    unfold comment? at h
    split at h
    · next cs =>
      cases h
      refine ⟨cs.dropWhile (· != '\n'), by simp, _, rfl, fun hmem => ?_, fun ch hch => ?_⟩
      · simpa using List.mem_takeWhile_imp hmem
      · simpa using head?_dropWhile_run hch
    · cases h
  · rintro ⟨rest, rfl, s, rfl, hs, hrest⟩
    have hrun : (s ++ rest).takeWhile (· != '\n') = s := by
      refine takeWhile_run (fun x hx => ?_) fun x hx => ?_
      · simp only [bne_iff_ne]
        rintro rfl
        exact hs hx
      · simp [hrest x hx]
    simp [comment?, hrun]

lemma identifier?_eq_some : identifier? cs = some t ↔ ∃ rest, cs = t ++ rest ∧
    (∃ ch more, t = ch :: more ∧ isIdentStart ch = true ∧ ∀ x ∈ more, isIdentChar x = true) ∧
    ∀ ch ∈ rest.head?, isIdentChar ch = false := by
  constructor
  · intro h
    unfold identifier? at h
    split at h
    · next ch cs =>
      split at h
      · next hch =>
        cases h
        exact ⟨cs.dropWhile isIdentChar, by simp,
          ⟨ch, _, rfl, hch, fun x => List.mem_takeWhile_imp⟩, fun x => head?_dropWhile_run⟩
      · cases h
    · cases h
  · rintro ⟨rest, rfl, ⟨ch, more, rfl, hch, hmore⟩, hrest⟩
    simp [identifier?, hch, takeWhile_run hmore hrest]

lemma untilQuote?_quotable {b : Bool} {s : List Char} (hs : Quotable s)
    (hline : b = false → '\n' ∉ s) (rest : List Char) :
    untilQuote? b (s ++ '"' :: rest) = some (s ++ ['"']) := by
  induction hs with
  | nil => simp [untilQuote?]
  | @plain ch cs hch more ih =>
    obtain ⟨hquote, hbackslash, hfeed⟩ := hch
    have hmore : b = false → '\n' ∉ cs := fun hb => List.not_mem_of_not_mem_cons (hline hb)
    rw [List.cons_append, untilQuote?.eq_4]
    · simp [hquote, hfeed, ih hmore]
    · simp
    · exact fun _ _ h => absurd h hbackslash
  | @escaped ch cs more ih =>
    have hboth : b = false → ch ≠ '\n' ∧ '\n' ∉ cs := fun hb => by
      have := hline hb
      simp only [List.mem_cons, not_or] at this
      exact ⟨Ne.symm this.2.1, this.2.2⟩
    have hescaped : (decide (ch = '\n') && !b) = false := by
      cases b <;> simp [hboth]
    simp [untilQuote?, hescaped, ih fun hb => (hboth hb).2]

lemma quotable_of_untilQuote? {b : Bool} (h : untilQuote? b cs = some t) :
    ∃ s, Quotable s ∧ (b = false → '\n' ∉ s) ∧ t = s ++ ['"'] ∧ ∃ rest, cs = t ++ rest := by
  fun_induction untilQuote? b cs generalizing t with
  | case1 => cases h
  | case2 => cases h
  | case3 => cases h
  | case4 ch cs hescaped ih =>
    obtain ⟨body, hbody, rfl⟩ := Option.map_eq_some_iff.mp h
    obtain ⟨s, hs, hline, rfl, rest, rfl⟩ := ih hbody
    refine ⟨_, .escaped ch hs, fun hb => ?_, rfl, rest, rfl⟩
    have hch : ch ≠ '\n' := by simpa [hb] using hescaped
    simp [hch.symm, hline hb]
  | case5 cs =>
    cases h
    exact ⟨[], .nil, fun _ => List.not_mem_nil, rfl, cs, rfl⟩
  | case6 => cases h
  | case7 ch cs hlast hbackslash hquote hfeed ih =>
    obtain ⟨body, hbody, rfl⟩ := Option.map_eq_some_iff.mp h
    obtain ⟨s, hs, hline, rfl, rest, rfl⟩ := ih hbody
    have hch : ch ≠ '\\' := by
      rintro rfl
      cases s with
      | nil => exact hbackslash '"' rest rfl rfl
      | cons x xs => exact hbackslash x (xs ++ ['"'] ++ rest) rfl rfl
    refine ⟨_, .plain ⟨hquote, hch, hfeed⟩ hs, fun hb => ?_, rfl, rest, rfl⟩
    simp [Ne.symm hfeed, hline hb]

/-- What a string is, with or without escapes that go beyond its line. -/
lemma string?_iff {b : Bool} : string? b cs = some t ↔ ∃ rest, cs = t ++ rest ∧
    ∃ s, t = '"' :: s ++ ['"'] ∧ Quotable s ∧ (b = false → '\n' ∉ s) := by
  constructor
  · intro h
    unfold string? at h
    split at h
    · next cs =>
      obtain ⟨body, hbody, rfl⟩ := Option.map_eq_some_iff.mp h
      obtain ⟨s, hs, hline, rfl, rest, rfl⟩ := quotable_of_untilQuote? hbody
      exact ⟨rest, rfl, s, rfl, hs, hline⟩
    · cases h
  · rintro ⟨rest, rfl, s, rfl, hs, hline⟩
    simp [string?, untilQuote?_quotable hs hline]

lemma string?_eq_some : string? true cs = some t ↔
    ∃ rest, cs = t ++ rest ∧ ∃ s, t = '"' :: s ++ ['"'] ∧ Quotable s := by
  simp [string?_iff]

lemma string?_oneLine : string? false cs = some t ↔
    ∃ rest, cs = t ++ rest ∧ ∃ s, t = '"' :: s ++ ['"'] ∧ Quotable s ∧ '\n' ∉ s := by
  simp [string?_iff]

/-- What the pre-scan takes for a string is one for the grammar as well. -/
lemma string?_true {b : Bool} (h : string? b cs = some t) : string? true cs = some t := by
  obtain ⟨rest, hcs, s, ht, hs, -⟩ := string?_iff.mp h
  exact string?_eq_some.mpr ⟨rest, hcs, s, ht, hs⟩

lemma untilTripleQuote?_cons (ch : Char) (cs : List Char) : untilTripleQuote? (ch :: cs) =
    if quotes <+: ch :: cs then some quotes else (untilTripleQuote? cs).map (ch :: ·) := by
  rw [untilTripleQuote?.eq_def]
  split
  · next h =>
    cases h
    rw [if_pos (by simp [quotes])]
    rfl
  · next ch' cs' hfirst h =>
    cases h
    rw [if_neg]
    rintro ⟨rest, hrest⟩
    obtain ⟨hch, hcs⟩ := List.cons.inj hrest.symm
    exact hfirst rest hch hcs
  · next h => cases h

/-- Three quotes begin a text with three quotes behind it only if they begin it before the third of
those. -/
private lemma quotes_ahead {ch : Char} {s rest : List Char}
    (h : quotes <+: ch :: (s ++ quotes ++ rest)) : quotes <+: ch :: (s ++ ['"', '"']) := by
  refine List.prefix_of_prefix_length_le h ⟨'"' :: rest, by simp [quotes]⟩ ?_
  simp [quotes]

lemma untilTripleQuote?_eq_some : untilTripleQuote? cs = some t ↔ ∃ rest, cs = t ++ rest ∧
    ∃ s, t = s ++ quotes ∧ ¬ quotes <:+: s ++ ['"', '"'] := by
  constructor
  · intro h
    induction cs generalizing t with
    | nil => cases h
    | cons ch cs ih =>
      rw [untilTripleQuote?_cons] at h
      split at h
      · next hquotes =>
        cases h
        obtain ⟨rest, hrest⟩ := hquotes
        exact ⟨rest, hrest.symm, [], rfl, by decide⟩
      · next hquotes =>
        obtain ⟨body, hbody, rfl⟩ := Option.map_eq_some_iff.mp h
        obtain ⟨rest, rfl, s, rfl, hs⟩ := ih hbody
        refine ⟨rest, rfl, ch :: s, rfl, ?_⟩
        rw [List.cons_append, List.infix_cons_iff, not_or]
        refine ⟨fun hahead => hquotes (hahead.trans ⟨'"' :: rest, ?_⟩), hs⟩
        simp [quotes]
  · rintro ⟨rest, rfl, s, rfl, hs⟩
    induction s with
    | nil => rfl
    | cons ch s ih =>
      rw [List.cons_append, List.infix_cons_iff, not_or] at hs
      rw [List.cons_append, List.cons_append, untilTripleQuote?_cons,
        if_neg fun h => hs.1 (quotes_ahead h), ih hs.2]
      rfl

lemma docString?_eq_some : docString? cs = some t ↔ ∃ rest, cs = t ++ rest ∧
    ∃ s, t = quotes ++ s ++ quotes ∧ ¬ quotes <:+: s ++ ['"', '"'] := by
  constructor
  · intro h
    unfold docString? at h
    split at h
    · next cs =>
      obtain ⟨body, hbody, rfl⟩ := Option.map_eq_some_iff.mp h
      obtain ⟨rest, rfl, s, rfl, hs⟩ := untilTripleQuote?_eq_some.mp hbody
      exact ⟨rest, rfl, s, rfl, hs⟩
    · cases h
  · rintro ⟨rest, rfl, s, rfl, hs⟩
    have hread : untilTripleQuote? (s ++ quotes ++ rest) = some (s ++ quotes) :=
      untilTripleQuote?_eq_some.mpr ⟨rest, rfl, s, rfl, hs⟩
    show (untilTripleQuote? (s ++ quotes ++ rest)).map _ = _
    rw [hread]
    rfl

@[simp] lemma inside_one (s : List Char) : inside 1 ('"' :: s ++ ['"']) = s := by
  simp [inside]

@[simp] lemma inside_three (s : List Char) : inside 3 (quotes ++ s ++ quotes) = s := by
  simp [inside, quotes]

/-! ### Gaps -/

lemma separators_blank {ch : Char} (hch : ch = ' ' ∨ ch = '\t' ∨ ch = '\r' ∨ ch = '\n') :
    separators (ch :: cs) = ch :: separators cs := by
  rw [separators, if_pos hch]

lemma separators_comment {rest : List Char} (h : comment? (t ++ rest) = some t) :
    separators (t ++ rest) = t ++ separators rest := by
  obtain ⟨_, hrest, s, rfl, -⟩ := comment?_eq_some.mp h
  rw [List.cons_append, separators, if_neg (by decide)]
  rw [List.cons_append] at h
  rw [h]
  simp

end Token

namespace Cursor

variable {c c₁ : Cursor} {s t : List Char}

lemma Spells.after_append (h : c.Spells s c₁) : c.after (s ++ t) = c₁.after t := by
  refine Cursor.ext ?_ ?_
  · simp [after, h.1]
  · simp only [after, byteLength_append, h.2]
    omega

lemma spells_after (h : s <+: c.rest) : c.Spells s (c.after s) := spells_iff.mpr ⟨h, rfl⟩

end Cursor

namespace Spelling

variable {c c₁ c' : Cursor} {text name : String}

/-- Neither a blank nor a comment is ahead. -/
def GapEnd (c : Cursor) : Prop := Token.separators c.rest = []

lemma gapEnd_of_head {ch : Char} (h : c.rest.head? = some ch)
    (hch : ch ∉ [' ', '\t', '\r', '\n', '/']) : GapEnd c := by
  obtain ⟨cs, hcs⟩ : ∃ cs, c.rest = ch :: cs := by
    cases hrest : c.rest with
    | nil => simp [hrest] at h
    | cons x xs =>
      rw [hrest] at h
      cases h
      exact ⟨xs, rfl⟩
  simp only [List.mem_cons, List.not_mem_nil, or_false, not_or] at hch
  obtain ⟨hspace, htab, hreturn, hline, hslash⟩ := hch
  have hcomment : Token.comment? (ch :: cs) = none := by
    unfold Token.comment?
    split
    · next h => exact absurd (List.cons.inj h).1 hslash
    · rfl
  rw [GapEnd, hcs, Token.separators, if_neg (by simp [hspace, htab, hreturn, hline]), hcomment]

lemma gapEnd_of_nil (h : c.rest = []) : GapEnd c := by
  rw [GapEnd, h, Token.separators]

lemma Ident.spells (h : Ident name c c') : c.Spells name.toList c' := by
  obtain ⟨-, -, -, here, -⟩ := h
  exact here

lemma isIdentChar_of_start {ch : Char} (h : Token.isIdentStart ch = true) :
    Token.isIdentChar ch = true := by
  simp only [Token.isIdentStart, Token.isIdentChar, Char.isAlphanum, Bool.or_eq_true] at h ⊢
  exact h.imp .inl id

lemma Ident.isIdentChar (h : Ident name c c') : ∀ x ∈ name.toList, Token.isIdentChar x = true := by
  obtain ⟨hname, hstart, goesOn, -, -⟩ := h
  rw [hname]
  rintro x (_ | ⟨_, hx⟩)
  · exact isIdentChar_of_start hstart
  · exact goesOn x hx

lemma Ident.identifier?_eq (h : Ident name c c') : Token.identifier? c.rest = some name.toList := by
  obtain ⟨hname, hstart, goesOn, here, whole⟩ := h
  exact Token.identifier?_eq_some.mpr ⟨_, here.1, ⟨_, _, hname, hstart, goesOn⟩, whole⟩

lemma Ident.length_lt (h : Ident name c c') : c'.rest.length < c.rest.length := by
  obtain ⟨hname, -, -, here, -⟩ := h
  exact here.length_lt (by simp [hname])

lemma Ident.head (h : Ident name c c') :
    ∃ ch, c.rest.head? = some ch ∧ Token.isIdentStart ch = true := by
  obtain ⟨hname, hstart, -, here, -⟩ := h
  rw [hname] at here
  exact ⟨_, here.head, hstart⟩

lemma Ident.gapEnd (h : Ident name c c') : GapEnd c := by
  obtain ⟨ch, hhead, hstart⟩ := h.head
  refine gapEnd_of_head hhead ?_
  simp only [List.mem_cons, List.not_mem_nil, or_false, not_or]
  refine ⟨?_, ?_, ?_, ?_, ?_⟩ <;> rintro rfl <;> revert hstart <;> decide

lemma comment_iff : Comment c c' ↔ ∃ t, Token.comment? c.rest = some t ∧ c.Spells t c' := by
  simp only [Token.comment?_eq_some]
  constructor
  · rintro ⟨hline, here, hend⟩
    exact ⟨_, ⟨c'.rest, here.1, _, rfl, hline, hend⟩, here⟩
  · rintro ⟨_, ⟨rest, hrest, s, rfl, hline, hend⟩, here⟩
    have : c'.rest = rest := List.append_cancel_left (here.1.symm.trans hrest)
    exact ⟨hline, here, this ▸ hend⟩

/-- Two slashes begin a comment. -/
lemma exists_comment (h : ['/', '/'] <+: c.rest) : ∃ c', Comment c c' := by
  obtain ⟨cs, hcs⟩ := h
  have hread : Token.comment? c.rest = some ('/' :: '/' :: cs.takeWhile (· != '\n')) := by
    rw [← hcs]
    rfl
  obtain ⟨rest, hrest, -⟩ := Token.comment?_eq_some.mp hread
  exact ⟨_, comment_iff.mpr ⟨_, hread, Cursor.spells_after ⟨rest, hrest.symm⟩⟩⟩

lemma DocString.quotes_ahead (h : DocString text c c') : quotes <+: c.rest :=
  ⟨text.toList ++ quotes ++ c'.rest, by simp [h.here.1]⟩

/-- A gap reaches as far as the separators do, unless another part of it is still ahead. -/
lemma Gap.after_eq (h : Gap c c') : c.after (Token.separators c.rest) =
    c'.after (Token.separators c'.rest) := by
  induction h with
  | nothing => rfl
  | blank hch here more ih =>
    rw [here.1, List.singleton_append, Token.separators_blank hch, ← ih]
    exact here.after_append
  | comment here more ih =>
    obtain ⟨t, ht, hspells⟩ := comment_iff.mp here
    rw [hspells.1] at ht ⊢
    rw [Token.separators_comment ht, ← ih]
    exact hspells.after_append

lemma GapEnd.after_separators (h : GapEnd c) : c.after (Token.separators c.rest) = c := by
  rw [h]
  rfl

/-- The separators ahead are a gap, with nothing more of it behind them. -/
lemma gap_separators (cs : List Char) (n : Nat) :
    Gap ⟨cs, n⟩ (Cursor.after ⟨cs, n⟩ (Token.separators cs)) ∧
      GapEnd (Cursor.after ⟨cs, n⟩ (Token.separators cs)) := by
  fun_induction Token.separators cs generalizing n with
  | case1 => exact ⟨.nothing _, gapEnd_of_nil (by simp [Cursor.after])⟩
  | case2 ch cs hch ih =>
    have here : Cursor.Spells ⟨ch :: cs, n⟩ [ch] ⟨cs, n + byteLength [ch]⟩ := ⟨rfl, rfl⟩
    obtain ⟨hgap, hend⟩ := ih (n + byteLength [ch])
    rw [← here.after_append] at hgap hend
    exact ⟨.blank hch here hgap, hend⟩
  | case3 ch cs hch token htoken ih =>
    obtain ⟨rest, hrest, s, rfl, -⟩ := Token.comment?_eq_some.mp htoken
    have here : Cursor.Spells ⟨ch :: cs, n⟩ ('/' :: '/' :: s)
        ⟨rest, n + byteLength ('/' :: '/' :: s)⟩ := ⟨hrest, rfl⟩
    have hdrop : cs.drop (('/' :: '/' :: s).length - 1) = rest := by
      cases hrest
      simp
    rw [hdrop] at ih ⊢
    obtain ⟨hgap, hend⟩ := ih (n + byteLength ('/' :: '/' :: s))
    rw [← here.after_append] at hgap hend
    exact ⟨.comment (comment_iff.mpr ⟨_, htoken, here⟩) hgap, hend⟩
  | case4 ch cs hch hcomment =>
    refine ⟨.nothing _, ?_⟩
    show Token.separators (ch :: cs) = []
    rw [Token.separators, if_neg hch, hcomment]

end Spelling

/-! ### Parsers of tokens -/

namespace Grammar

open Contracts.Parser

variable {c c' : Cursor} {text name : String} {u : Unit}

lemma gives_gap : gap.Gives c u c' ↔ Gap c c' ∧ GapEnd c' := by
  have hgives : gap.Gives c u c' ↔ c.after (Token.separators c.rest) = c' := by
    show some ((), c.after (Token.separators c.rest)) = some (u, c') ↔ _
    simp
  rw [hgives]
  constructor
  · rintro rfl
    exact gap_separators c.rest c.offset
  · rintro ⟨hgap, hend⟩
    rw [hgap.after_eq, hend.after_separators]

/-- A parser that takes up a token gives what its reader finds. -/
lemma gives_token_iff {what : Expected} {read : List Char → Option (List Char)}
    {Shape : List Char → List Char → Prop} {t : List Char}
    (h : ∀ cs t, read cs = some t ↔ ∃ rest, cs = t ++ rest ∧ Shape t rest) :
    (token what read).Gives c t c' ↔ c.Spells t c' ∧ Shape t c'.rest := by
  rw [gives_token, h]
  constructor
  · rintro ⟨⟨rest, hrest, hshape⟩, rfl⟩
    have here : c.Spells t (c.after t) := Cursor.spells_after ⟨rest, hrest.symm⟩
    have : (c.after t).rest = rest := List.append_cancel_left (here.1.symm.trans hrest)
    exact ⟨here, this ▸ hshape⟩
  · rintro ⟨here, hshape⟩
    exact ⟨⟨_, here.1, hshape⟩, (Cursor.spells_iff.mp here).2⟩

lemma gives_identifier : identifier.Gives c name c' ↔ Ident name c c' := by
  unfold identifier
  rw [gives_bind]
  simp only [gives_pure, gives_token_iff fun _ _ => Token.identifier?_eq_some]
  constructor
  · rintro ⟨t, _, ⟨here, ⟨ch, more, rfl, hstart, hmore⟩, hend⟩, rfl, rfl⟩
    exact ⟨String.toList_ofList, hstart, hmore, by simpa using here, hend⟩
  · rintro ⟨hname, hstart, hmore, here, hend⟩
    exact ⟨_, _, ⟨here, ⟨_, _, hname, hstart, hmore⟩, hend⟩, String.ofList_toList, rfl⟩

lemma gives_keyword {word : String} : (keyword word).Gives c u c' ↔ Word word c c' := by
  unfold keyword
  have hend : ∀ cs : List Char, cs.head?.any Token.isIdentChar = false ↔
      ∀ ch ∈ cs.head?, Token.isIdentChar ch = false := by
    intro cs
    cases cs <;> simp
  rw [gives_bind]
  simp only [gives_literal, gives_notAhead, hend]
  constructor
  · rintro ⟨-, _, here, hwhole, rfl⟩
    exact ⟨here, hwhole⟩
  · rintro ⟨here, hwhole⟩
    exact ⟨(), _, here, hwhole, rfl⟩

lemma gives_string : string.Gives c text c' ↔ Quoted text c c' := by
  unfold string
  rw [gives_bind]
  simp only [gives_pure, gives_token_iff fun _ _ => Token.string?_eq_some]
  constructor
  · rintro ⟨_, _, ⟨here, s, rfl, hs⟩, rfl, rfl⟩
    rw [Token.inside_one]
    exact ⟨by simpa using hs, by simpa using here⟩
  · rintro ⟨hs, here⟩
    refine ⟨_, _, ⟨here, _, rfl, hs⟩, ?_, rfl⟩
    rw [Token.inside_one, String.ofList_toList]

lemma gives_tripleQuoted : tripleQuoted.Gives c text c' ↔ DocString text c c' := by
  have hgives : tripleQuoted.Gives c text c' ↔ ∃ t, Token.docString? c.rest = some t ∧
      String.ofList (Token.inside 3 t) = text ∧ c.after t = c' := by
    unfold Gives tripleQuoted
    split
    · next t ht => simp [ht]
    · next hnone => split <;> simp [hnone]
  rw [hgives]
  simp only [Token.docString?_eq_some]
  constructor
  · rintro ⟨_, ⟨rest, hrest, s, rfl, hs⟩, rfl, rfl⟩
    rw [Token.inside_three]
    exact ⟨by simpa using hs, by simpa using Cursor.spells_after ⟨rest, hrest.symm⟩⟩
  · rintro ⟨hs, here⟩
    refine ⟨_, ⟨_, here.1, _, rfl, hs⟩, ?_, (Cursor.spells_iff.mp here).2.symm⟩
    rw [Token.inside_three, String.ofList_toList]

lemma gives_comment : comment.Gives c u c' ↔ Comment c c' := by
  have hgives : comment.Gives c u c' ↔ ∃ t, Token.comment? c.rest = some t ∧ c.after t = c' := by
    unfold Gives comment
    cases Token.comment? c.rest <;> simp
  rw [hgives, comment_iff]
  refine exists_congr fun t => and_congr_right fun ht => ?_
  obtain ⟨rest, hrest, -⟩ := Token.comment?_eq_some.mp ht
  constructor
  · rintro rfl
    exact Cursor.spells_after ⟨rest, hrest.symm⟩
  · exact fun here => (Cursor.spells_iff.mp here).2.symm

lemma gives_filler : filler.Gives c u c' ↔ ∃ ch, c.Spells [ch] c' ∧ ch ≠ '{' ∧ ch ≠ '}' := by
  unfold Gives filler
  split
  · next h => simp [Cursor.Spells, h]
  · next ch cs h =>
    have hspells : ∀ x, c.Spells [x] c' ↔ x = ch ∧ c' = c.after [ch] := by
      intro x
      rw [Cursor.spells_iff, h, List.cons_prefix_cons]
      constructor
      · rintro ⟨⟨rfl, -⟩, rfl⟩
        exact ⟨rfl, rfl⟩
      · rintro ⟨rfl, rfl⟩
        exact ⟨⟨rfl, List.nil_prefix⟩, rfl⟩
    simp only [hspells]
    split
    · next hbrace =>
      simp only [reduceCtorEq, false_iff, not_exists]
      rintro x ⟨⟨rfl, -⟩, hopen, hclose⟩
      exact hbrace.elim hopen hclose
    · next hbrace =>
      rw [not_or] at hbrace
      simp [hbrace, eq_comm]

end Grammar

end Contracts
