import Mathlib.Logic.Relation
import Contracts.Source.Reading
import Contracts.Proofs.Editor.Range
import Contracts.Proofs.Source.Closed
import Contracts.Proofs.Source.Frontier

/-!
The first string of a text that is not closed.

Apart from any reader, a text goes on at a cursor with a lexeme, which is a comment, a documentation
string, a string on one line or another character, or it goes on with a string that is left open.
Each turn of the pre-scan takes up the lexeme that is there, so it stops at the first string that is
left open. No lexeme needs what stands behind the next one, so what is in front of that string is a
closed text of its own.
-/

namespace Contracts

open Spelling

/-! ### What a text goes on with -/

namespace Spelling

/-- A text goes on with a comment, a documentation string, a string on one line, or a character
that begins none of these. -/
inductive Lexeme : Cursor → Cursor → Prop
  | comment {c c' : Cursor} (here : Comment c c') : Lexeme c c'
  | docString {c c' : Cursor} {text : String} (here : DocString text c c') : Lexeme c c'
  | literal {c c' : Cursor} {text : String} (here : Literal text c c')
      (oneLine : '\n' ∉ text.toList) : Lexeme c c'
  | character {c c' : Cursor} {ch : Char} (here : c.Spells [ch] c') (other : ch ≠ '"')
      (plain : ¬ ['/', '/'] <+: c.rest) : Lexeme c c'

/-- A text goes on with a string that is left open: with three quotes and no three more behind
them, or with another quote and none on its line that closes it. -/
inductive LeftOpen (cs : List Char) : Unclosed → Prop
  | docString {rest : List Char} (begins : cs = quotes ++ rest) (never : ¬ quotes <:+: rest) :
      LeftOpen cs .docString
  | string {rest : List Char} (begins : cs = '"' :: rest) (single : ¬ quotes <+: cs)
      (never : ∀ s, Quotable s → ¬ s ++ ['"'] <+: rest.takeWhile (· != '\n')) : LeftOpen cs .string

lemma LeftOpen.head {cs : List Char} {kind : Unclosed} (h : LeftOpen cs kind) :
    cs.head? = some '"' := by
  cases h with
  | docString begins =>
    rw [begins]
    rfl
  | string begins =>
    rw [begins]
    rfl

end Spelling

namespace Token

variable {cs s t rest : List Char} {ch : Char} {kind : Unclosed}

lemma untilTripleQuote?_eq_none : untilTripleQuote? cs = none ↔ ¬ quotes <:+: cs := by
  induction cs with
  | nil => simp [untilTripleQuote?, quotes]
  | cons ch cs ih =>
    rw [untilTripleQuote?_cons, List.infix_cons_iff, not_or]
    split
    · next h => simp [h]
    · next h => simp [h, ih]

lemma docString?_eq_none : docString? (quotes ++ cs) = none ↔ ¬ quotes <:+: cs := by
  show (untilTripleQuote? cs).map _ = none ↔ _
  rw [Option.map_eq_none_iff, untilTripleQuote?_eq_none]

/-- A quote is closed on its line or not at all. -/
lemma string?_eq_none : string? false ('"' :: cs) = none ↔
    ∀ s, Quotable s → ¬ s ++ ['"'] <+: cs.takeWhile (· != '\n') := by
  constructor
  · intro hnone s hs hclosed
    have hline : '\n' ∉ s := fun hmem => by
      simpa using List.mem_takeWhile_imp (hclosed.subset (List.mem_append_left _ hmem))
    obtain ⟨rest, hrest⟩ := hclosed.trans (List.takeWhile_prefix _)
    have hsome : string? false ('"' :: cs) = some ('"' :: s ++ ['"']) :=
      string?_oneLine.mpr ⟨rest, by rw [← hrest]; rfl, s, rfl, hs, hline⟩
    rw [hnone] at hsome
    cases hsome
  · intro never
    cases h : string? false ('"' :: cs) with
    | none => rfl
    | some t =>
      obtain ⟨rest, hcs, s, rfl, hs, hline⟩ := string?_oneLine.mp h
      obtain rfl : cs = s ++ ['"'] ++ rest := (List.cons.inj hcs).2
      have hall : ∀ x ∈ s ++ ['"'], (x != '\n') = true := fun x hx => by
        simp only [bne_iff_ne]
        rintro rfl
        simp [hline] at hx
      refine absurd ?_ (never s hs)
      rw [List.takeWhile_append_of_pos hall]
      exact List.prefix_append _ _

/-- The pre-scan finds no token where a string is left open, and only there. -/
lemma read_eq_error : read ch cs = .error kind ↔ LeftOpen (ch :: cs) kind := by
  constructor
  · intro h
    unfold read at h
    split at h
    · cases h
    split at h
    · next hquotes =>
      obtain ⟨rest, hrest⟩ := List.isPrefixOf_iff_prefix.mp hquotes
      split at h
      · cases h
      · next hnone =>
        cases h
        rw [← hrest] at hnone
        exact .docString hrest.symm (docString?_eq_none.mp hnone)
    split at h
    · next hsingle hquote =>
      subst hquote
      split at h
      · cases h
      · next hnone =>
        cases h
        refine .string rfl (fun hquotes => hsingle ?_) (string?_eq_none.mp hnone)
        exact List.isPrefixOf_iff_prefix.mpr hquotes
    · cases h
  · intro h
    cases h with
    | @docString rest begins never =>
      have hquotes : quotes <+: ch :: cs := ⟨rest, begins.symm⟩
      rw [Cursor.read_quotes hquotes, begins, docString?_eq_none.mpr never]
    | string begins single never =>
      cases begins
      rw [Cursor.read_quote single, string?_eq_none.mpr never]

end Token

/-! ### Turn by turn -/

/-- One turn of the pre-scan: the token at the cursor is taken up, the text is cut behind it and the
offset moves on by its bytes. -/
inductive Cursor.Turn : Cursor → Cursor → Prop
  | mk {ch : Char} {cs : List Char} {n : Nat} {token : Token}
      (hread : Token.read ch cs = .ok token) :
      Cursor.Turn ⟨ch :: cs, n⟩ ⟨cs.drop (token.text.length - 1), n + byteLength token.text⟩

section

variable {c c' : Cursor} {token : Token}

lemma Cursor.Turn.reads (h : c.Turn c') : ∃ token, c.Reads token c' := by
  obtain @⟨ch, cs, n, token, hread⟩ := h
  obtain ⟨hne, htext⟩ := Token.text_of_read hread
  obtain ⟨k, hk⟩ := Nat.exists_eq_succ_of_ne_zero (List.length_pos_iff.mpr hne).ne'
  refine ⟨token, Cursor.spells_iff.mpr ⟨htext, Cursor.ext ?_ rfl⟩, hne, fun x xs hrest => ?_⟩
  · simp [Cursor.after, hk]
  · cases hrest
    exact hread

lemma Cursor.Reads.turn (h : c.Reads token c') : c.Turn c' := by
  obtain ⟨ch, cs, hrest, hread, hdrop⟩ := h.exists_rest
  have hoffset := h.here.2
  obtain ⟨rest, n⟩ := c
  obtain ⟨rest', n'⟩ := c'
  dsimp only at hrest hdrop hoffset
  subst hrest hdrop hoffset
  exact .mk hread

lemma Cursor.Reads.lexeme (h : c.Reads token c') : Lexeme c c' := by
  obtain ⟨here, -⟩ | ⟨text, here, -⟩ | ⟨text, here, oneLine, -⟩ | ⟨ch, -, other, plain, here⟩ :=
    h.spelled
  · exact .comment here
  · exact .docString here
  · exact .literal here oneLine
  · exact .character here other plain

lemma Spelling.Lexeme.turn (h : Lexeme c c') : c.Turn c' := by
  cases h with
  | comment here =>
    obtain ⟨s, hs, hspells⟩ := comment_iff.mp here
    exact (Cursor.reads_comment hspells hs).turn
  | docString here => exact (Cursor.reads_docString here).turn
  | literal here oneLine => exact (Cursor.reads_oneLine here oneLine).turn
  | character here other plain => exact (Cursor.reads_character here other plain).turn

lemma turn_iff_lexeme : c.Turn c' ↔ Lexeme c c' := by
  refine ⟨fun h => ?_, fun h => h.turn⟩
  obtain ⟨token, hreads⟩ := h.reads
  exact hreads.lexeme

end

/-! ### The pre-scan -/

section

open Relation

variable {c c' : Cursor} {cs : List Char} {s : OpenString} {n : Nat} {kind : Unclosed}

lemma Cursor.Turn.tokensFrom_eq (h : c.Turn c') :
    (tokensFrom c.offset c.rest).2 = (tokensFrom c'.offset c'.rest).2 := by
  obtain ⟨hread⟩ := h
  rw [tokensFrom, hread]

lemma Cursor.Turn.length_lt (h : c.Turn c') : c'.rest.length < c.rest.length := by
  obtain ⟨token, hreads⟩ := h.reads
  exact hreads.here.length_lt hreads.text_ne

lemma Cursor.Turn.reaches (h : c.Turn c') : c.Reaches c' := by
  obtain ⟨token, hreads⟩ := h.reads
  exact hreads.here.reaches

/-- What the pre-scan finds from one of its turns on is what it finds. -/
lemma tokensFrom_of_turns (h : ReflTransGen Cursor.Turn c c') :
    (tokensFrom c.offset c.rest).2 = (tokensFrom c'.offset c'.rest).2 := by
  induction h with
  | refl => rfl
  | tail _ turn ih => exact ih.trans turn.tokensFrom_eq

lemma reaches_of_turns (h : ReflTransGen Cursor.Turn c c') : c.Reaches c' := by
  induction h with
  | refl => exact .refl c
  | tail _ turn ih => exact ih.trans turn.reaches

lemma tokensFrom_of_leftOpen (h : LeftOpen c.rest kind) :
    (tokensFrom c.offset c.rest).2 = some ⟨kind, c.offset, c.rest⟩ := by
  obtain ⟨cs, hrest⟩ := List.head?_eq_some_iff.mp h.head
  rw [hrest] at h ⊢
  rw [tokensFrom, Token.read_eq_error.mpr h]

lemma tokensFrom_of_nil (h : c.rest = []) : (tokensFrom c.offset c.rest).2 = none := by
  rw [h, tokensFrom]

/-- The turns come to the end of the text or to a string that is left open. -/
lemma exists_stop (c : Cursor) : ∃ c', ReflTransGen Cursor.Turn c c' ∧
    (c'.rest = [] ∨ ∃ kind, LeftOpen c'.rest kind) := by
  -- by the length of what is left, of which every turn takes something
  induction h : c.rest.length using Nat.strongRecOn generalizing c with
  | ind m ih =>
    obtain ⟨_ | ⟨ch, cs⟩, n⟩ := c
    · exact ⟨_, .refl, .inl rfl⟩
    · cases hread : Token.read ch cs with
      | error kind => exact ⟨_, .refl, .inr ⟨kind, Token.read_eq_error.mp hread⟩⟩
      | ok token =>
        have turn : Cursor.Turn ⟨ch :: cs, n⟩ _ := .mk hread
        obtain ⟨c', turns, hstop⟩ := ih _ (h ▸ turn.length_lt) _ rfl
        exact ⟨c', .head turn turns, hstop⟩

lemma openString?_eq_some : openString? cs = some s ↔
    ReflTransGen Cursor.Turn ⟨cs, 0⟩ ⟨s.rest, s.offset⟩ ∧ LeftOpen s.rest s.kind := by
  constructor
  · intro h
    obtain ⟨c, turns, hrest | ⟨kind, hopen⟩⟩ := exists_stop ⟨cs, 0⟩
    · have hnone := (tokensFrom_of_turns turns).trans (tokensFrom_of_nil hrest)
      cases h.symm.trans hnone
    · have hsome := (tokensFrom_of_turns turns).trans (tokensFrom_of_leftOpen hopen)
      cases h.symm.trans hsome
      exact ⟨turns, hopen⟩
  · rintro ⟨turns, hopen⟩
    exact (tokensFrom_of_turns turns).trans (tokensFrom_of_leftOpen hopen)

lemma openString?_eq_none :
    openString? cs = none ↔ ReflTransGen Cursor.Turn ⟨cs, 0⟩ ⟨[], byteLength cs⟩ := by
  constructor
  · intro h
    obtain ⟨⟨rest, n⟩, turns, hrest | ⟨kind, hopen⟩⟩ := exists_stop ⟨cs, 0⟩
    · obtain ⟨before, hcut, hoffset⟩ := (reaches_of_turns turns).cut
      dsimp only at hrest hcut hoffset
      subst hrest hoffset
      rw [List.append_nil] at hcut
      rwa [← hcut] at turns
    · have hsome := (tokensFrom_of_turns turns).trans (tokensFrom_of_leftOpen hopen)
      cases h.symm.trans hsome
  · exact fun turns => (tokensFrom_of_turns turns).trans (tokensFrom_of_nil rfl)

lemma turns_iff_lexemes : ReflTransGen Cursor.Turn c c' ↔ ReflTransGen Lexeme c c' := by
  have hsame : Cursor.Turn = Lexeme := funext₂ fun _ _ => propext turn_iff_lexeme
  rw [hsame]

end

/-! ### In front of the open string -/

section

open Relation

variable {c c₁ c' : Cursor} {cs s rest : List Char} {o : OpenString}

/-- No lexeme needs what stands behind the next one, so a text may be cut off there. -/
lemma Spelling.Lexeme.cut (h : Lexeme c c₁) (hrest : c₁.rest = s ++ rest) :
    ∃ t, c.Spells t c₁ ∧ Lexeme ⟨t ++ s, c.offset⟩ ⟨s, c₁.offset⟩ := by
  have hahead : ∀ {t}, c.Spells t c₁ → t ++ s <+: c.rest := fun {t} here =>
    ⟨rest, by rw [here.1, hrest, List.append_assoc]⟩
  cases h with
  | comment here =>
    obtain ⟨oneLine, spells, lineEnd⟩ := here
    refine ⟨_, spells, .comment ⟨oneLine, ⟨rfl, spells.2⟩, fun ch hch => lineEnd ch ?_⟩⟩
    obtain ⟨more, hmore⟩ := List.head?_eq_some_iff.mp hch
    dsimp only at hmore
    rw [hrest, hmore]
    rfl
  | docString here => exact ⟨_, here.here, .docString ⟨here.first, ⟨rfl, here.here.2⟩⟩⟩
  | literal here oneLine =>
    obtain ⟨⟨quotable, spells⟩, single⟩ := here
    refine ⟨_, spells, .literal ⟨⟨quotable, ⟨rfl, spells.2⟩⟩, fun hquotes => ?_⟩ oneLine⟩
    exact single (hquotes.trans (hahead spells))
  | character here other plain =>
    refine ⟨_, here, .character ⟨rfl, here.2⟩ other fun hslashes => ?_⟩
    exact plain (hslashes.trans (hahead here))

/-- What is read up to a cursor is read as well if the text ends there. -/
lemma lexemes_cut (h : ReflTransGen Lexeme c c') :
    ∃ s, c.Spells s c' ∧ ReflTransGen Lexeme ⟨s, c.offset⟩ ⟨[], c'.offset⟩ := by
  induction h using ReflTransGen.head_induction_on with
  | refl => exact ⟨[], ⟨rfl, rfl⟩, .refl⟩
  | head lexeme _ ih =>
    obtain ⟨s, hs, lexemes⟩ := ih
    obtain ⟨t, ht, hcut⟩ := lexeme.cut hs.1
    exact ⟨t ++ s, ht.trans hs, .head hcut lexemes⟩

lemma exists_before (h : openString? cs = some o) : ∃ before, cs = before ++ o.rest ∧
    o.offset = byteLength before ∧ openString? before = none := by
  obtain ⟨turns, -⟩ := openString?_eq_some.mp h
  obtain ⟨before, ⟨hcut, hoffset⟩, lexemes⟩ := lexemes_cut (turns_iff_lexemes.mp turns)
  dsimp only at hcut hoffset
  rw [Nat.zero_add] at hoffset
  refine ⟨before, hcut, hoffset, openString?_eq_none.mpr (turns_iff_lexemes.mpr ?_)⟩
  rwa [hoffset] at lexemes

end

/-! ### The error -/

/-- What the error of an open string spans: all that is ahead, or what of it is on the line. -/
def Unclosed.spanned : Unclosed → List Char → List Char
  | .docString, rest => rest
  | .string, rest => rest.takeWhile (· != '\n')

lemma Unclosed.spanned_prefix (kind : Unclosed) (rest : List Char) :
    kind.spanned rest <+: rest := by
  cases kind with
  | docString => exact List.prefix_rfl
  | string => exact List.takeWhile_prefix _

namespace SyntaxError

variable {cs : List Char} {lines : Lines} {s : OpenString}

lemma span_ofOpenString : (ofOpenString lines s).span =
    ⟨s.offset, s.offset + byteLength (s.kind.spanned s.rest)⟩ := by
  obtain ⟨_ | _, offset, rest⟩ := s <;> rfl

lemma position_ofOpenString : (ofOpenString lines s).position = lines.position s.offset := by
  obtain ⟨_ | _, offset, rest⟩ := s <;> rfl

lemma category_ofOpenString : (ofOpenString lines s).category = .lexer := by
  obtain ⟨_ | _, offset, rest⟩ := s <;> rfl

/-- The error of an open string begins where a closed text ends. -/
lemma exists_spanned (h : openString? cs = some s) :
    let e := ofOpenString (Lines.ofText cs) s
    let spanned := s.kind.spanned s.rest
    ∃ before after, openString? before = none ∧ s.rest = spanned ++ after ∧
      cs = before ++ spanned ++ after ∧
      e.span = ⟨byteLength before, byteLength (before ++ spanned)⟩ ∧
      e.position = (⟨1, 1⟩ : Position).past before := by
  obtain ⟨before, hcut, hoffset, hbefore⟩ := exists_before h
  obtain ⟨after, hafter⟩ := s.kind.spanned_prefix s.rest
  refine ⟨before, after, hbefore, hafter.symm, ?_, ?_, ?_⟩
  · rw [List.append_assoc, hafter, hcut]
  · rw [span_ofOpenString, hoffset, byteLength_append]
  · rw [position_ofOpenString, hoffset, hcut, position_byteLength]

end SyntaxError

/-- The errors of the pre-scan are those of open strings. -/
lemma readTree_eq_lexer_error {kind : Kind} {text : String} {e : SyntaxError} :
    readTree kind text = .error e ∧ e.category = .lexer ↔
      ∃ s, openString? text.toList = some s ∧ e = .ofOpenString (Lines.ofText text.toList) s := by
  have htext : (Lines.ofText text.toList).text = text.toList := rfl
  unfold readTree
  dsimp only
  rw [htext]
  cases openString? text.toList with
  | some s =>
    constructor
    · rintro ⟨h, -⟩
      exact ⟨s, rfl, (Except.error.inj h).symm⟩
    · rintro ⟨_, ⟨⟩, rfl⟩
      exact ⟨rfl, SyntaxError.category_ofOpenString⟩
  | none =>
    constructor
    · rintro ⟨h, hlexer⟩
      dsimp only at h
      split at h
      · cases h
      · cases h
        cases hlexer
    · rintro ⟨_, ⟨⟩, -⟩

open Relation in
/-- **The first string that is not closed.** Every turn of the pre-scan leaves less of the text, and
what is left is the text from the offset on. The pre-scan fails exactly if reading the text lexeme
by lexeme comes to a string that is left open. The error begins at its first quote and spans the
rest of the line, or of the text behind three quotes, and what is in front is a closed text. -/
theorem first_open_string (kind : Kind) (text : String) :
    let cs := text.toList
    (∀ c, ReflTransGen Cursor.Turn ⟨cs, 0⟩ c →
      slice? c.offset (byteLength cs) cs = some c.rest ∧
      openString? cs = (tokensFrom c.offset c.rest).2 ∧
      ∀ c', c.Turn c' → c'.rest.length < c.rest.length) ∧
    (openString? cs = none ↔ ReflTransGen Lexeme ⟨cs, 0⟩ ⟨[], byteLength cs⟩) ∧
    (∀ s, openString? cs = some s ↔
      ReflTransGen Lexeme ⟨cs, 0⟩ ⟨s.rest, s.offset⟩ ∧ LeftOpen s.rest s.kind) ∧
    (∀ e, readTree kind text = .error e ∧ e.category = .lexer ↔
      ∃ s, openString? cs = some s ∧ e = .ofOpenString (Lines.ofText cs) s) ∧
    ∀ s, openString? cs = some s → s.rest.head? = some '"' ∧
      let e := SyntaxError.ofOpenString (Lines.ofText cs) s
      let spanned := s.kind.spanned s.rest
      ∃ before after, openString? before = none ∧ s.rest = spanned ++ after ∧
        cs = before ++ spanned ++ after ∧
        e.span = ⟨byteLength before, byteLength (before ++ spanned)⟩ ∧
        e.position = (⟨1, 1⟩ : Position).past before := by
  intro cs
  refine ⟨fun c turns => ⟨?_, tokensFrom_of_turns turns, fun c' turn => turn.length_lt⟩, ?_,
    fun s => ?_, fun e => readTree_eq_lexer_error, fun s hopen => ?_⟩
  · obtain ⟨before, hcut, hoffset⟩ := (reaches_of_turns turns).cut
    have hslice := slice?_append before c.rest []
    rw [List.append_nil, ← hoffset, ← hcut] at hslice
    exact hslice
  · rw [openString?_eq_none, turns_iff_lexemes]
  · rw [openString?_eq_some, turns_iff_lexemes]
  · exact ⟨(openString?_eq_some.mp hopen).2.head, SyntaxError.exists_spanned hopen⟩

/-- A quote in a comment and a documentation string, with an open string right behind them. -/
example : openString? "// \"\n\"\"\"a\"\"\"\"b\n".toList =
    some ⟨.string, 12, "\"b\n".toList⟩ := by
  decide +kernel

end Contracts
