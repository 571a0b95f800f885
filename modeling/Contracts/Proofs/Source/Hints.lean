import Contracts.Proofs.Source.Errors
import Contracts.Proofs.Source.Headers

/-!
Which headers get a hint.

A text that the grammar refuses has the hint on the shape of its header if the word of a line was
missing. That is not every header that breaks off: where an equals sign or a value is missing, or a
value is refused, there is none.
-/

namespace Contracts

open Spelling

/-- The words that begin the lines of a header. -/
def Kind.headerWords (kind : Kind) : List String := [kind.firstLine.word, kind.secondLine.word]

/-- The hint on the shape of a header. -/
def Kind.hint (kind : Kind) : Option String :=
  SyntaxError.headerHint kind (kind.headerWords.map .literal)

variable {kind : Kind} {lines : Lines} {text : List Char} {expected : List Expected}
  {word : String} {what : Expected} {c : Cursor}

lemma headerHint_eq_hint (hword : word ∈ kind.headerWords) (h : .literal word ∈ expected) :
    SyntaxError.headerHint kind expected = kind.hint := by
  cases kind with
  | profile =>
    obtain rfl | rfl : word = "name" ∨ word = "version" := by
      simpa [Kind.headerWords, Kind.firstLine, Kind.secondLine] using hword
    · exact if_pos (.inl h)
    · exact if_pos (.inr h)
  | map =>
    obtain rfl | rfl : word = "profile" ∨ word = "provider" := by
      simpa [Kind.headerWords, Kind.firstLine, Kind.secondLine] using hword
    · exact if_pos (.inl h)
    · exact if_pos (.inr h)

lemma headerHint_eq_none (h : ∀ word ∈ kind.headerWords, .literal word ∉ expected) :
    SyntaxError.headerHint kind expected = none := by
  cases kind <;> exact if_neg (not_or.mpr ⟨h _ (by decide), h _ (by decide)⟩)

lemma hint_ne_none : kind.hint ≠ none := by
  cases kind <;> exact Option.some_ne_none _

lemma notMem_laterTokens : ∀ word ∈ kind.headerWords, .literal word ∉ Grammar.laterTokens := by
  cases kind <;> decide

/-- Where one thing is missing there is the hint if it is a word of the header. -/
lemma headerHint_singleton :
    SyntaxError.headerHint kind [what] = kind.hint ↔
      ∃ word ∈ kind.headerWords, what = .literal word := by
  constructor
  · intro hhint
    by_contra hno
    refine hint_ne_none (hhint.symm.trans (headerHint_eq_none fun word hword hmem => hno ?_))
    exact ⟨word, hword, (List.mem_singleton.mp hmem).symm⟩
  · rintro ⟨word, hword, rfl⟩
    exact headerHint_eq_hint hword List.mem_cons_self

lemma headerHint_of_beginsWithHeader (h : BeginsWithHeader kind text) : SyntaxError.headerHint kind
    (Grammar.document lines kind ⟨text, 0⟩).frontier.expected = none := by
  obtain ⟨c, c', hgap, hlines⟩ := beginsWithHeader_iff.mp h
  exact headerHint_eq_none fun word hword hmem =>
    notMem_laterTokens word hword (Grammar.missed_of_headerLines hgap hlines _ hmem)

lemma frontier_of_breaksOff (h : BreaksOff kind text c what) :
    (Grammar.document lines kind ⟨text, 0⟩).frontier = ⟨c.offset, [what]⟩ :=
  congrArg Reply.frontier (Grammar.breaks_document h)

/-- **Which headers get a hint.** A text that the grammar refuses begins with a complete header, or
its header breaks off. In the first case its error has no hint. In the second one the error says
where the header breaks off and what is missing there, and it has the hint exactly if that is the
word of a line. So having the hint and having no complete header are the same exactly where the
header breaks off neither at an equals sign nor at a value. -/
theorem hint_iff_word_missing (kind : Kind) (text : String) (e : SyntaxError)
    (h : readTree kind text = .error e) (hparser : e.category = .parser) :
    kind.hint ≠ none ∧
    (BeginsWithHeader kind text.toList ↔ ¬ ∃ c what, BreaksOff kind text.toList c what) ∧
    (BeginsWithHeader kind text.toList → e.hint = none) ∧
    (∀ c what, BreaksOff kind text.toList c what →
      e = .ofFrontier (Lines.ofText text.toList) kind ⟨c.offset, [what]⟩ ∧
      (e.hint = kind.hint ↔ ∃ word ∈ kind.headerWords, what = .literal word) ∧
      (e.hint ≠ kind.hint → e.hint = none)) ∧
    ((e.hint = kind.hint ↔ ¬ BeginsWithHeader kind text.toList) ↔
      ∀ c what, BreaksOff kind text.toList c what →
        ∃ word ∈ kind.headerWords, what = .literal word) := by
  obtain rfl : e = .ofFrontier (Lines.ofText text.toList) kind
      (Grammar.document (Lines.ofText text.toList) kind ⟨text.toList, 0⟩).frontier := by
    obtain ⟨⟨_ | _, offset, rest⟩, -, rfl⟩ | h := readTree_eq_error h
    · cases hparser
    · cases hparser
    · exact h
  have hiff := beginsWithHeader_iff_not kind text.toList
  have hheader : BeginsWithHeader kind text.toList → SyntaxError.headerHint kind (Grammar.document
      (Lines.ofText text.toList) kind ⟨text.toList, 0⟩).frontier.expected = none :=
    headerHint_of_beginsWithHeader
  have hword : ∀ c what, BreaksOff kind text.toList c what →
      (SyntaxError.headerHint kind (Grammar.document (Lines.ofText text.toList) kind
        ⟨text.toList, 0⟩).frontier.expected = kind.hint ↔
          ∃ word ∈ kind.headerWords, what = .literal word) := by
    intro c what hbreak
    rw [frontier_of_breaksOff hbreak, headerHint_singleton]
  refine ⟨hint_ne_none, hiff, hheader,
    fun c what hbreak => ⟨?_, hword c what hbreak, fun hne => ?_⟩, ?_, ?_⟩
  · rw [frontier_of_breaksOff hbreak]
  · exact headerHint_eq_none fun word hword hmem => hne (headerHint_eq_hint hword hmem)
  · intro hclaim c what hbreak
    exact (hword c what hbreak).mp (hclaim.mpr fun hbegins => hiff.mp hbegins ⟨c, what, hbreak⟩)
  · intro hwords
    constructor
    -- behind a header there is no hint, and a header that breaks off does so at a word
    · intro hhint hbegins
      exact hint_ne_none (hhint.symm.trans (hheader hbegins))
    · intro hbegins
      obtain ⟨c, what, hbreak⟩ := not_not.mp fun hno => hbegins (hiff.mpr hno)
      exact (hword c what hbreak).mpr (hwords c what hbreak)

/-- A map whose second line begins with a misspelled word, behind a comment. -/
def misspelledText : String := "profile = \"weather@1.0\" // 1.0\nprovidr = \"p\"\n"

theorem hint_of_misspelled : ∃ e, readTree .map misspelledText = .error e ∧ e.category = .parser ∧
    e.hint = Kind.map.hint ∧ ¬ BeginsWithHeader .map misspelledText.toList := by
  have herror : (match readTree .map misspelledText with
      | .error e => some (e.category, e.hint)
      | .ok _ => none) = some (.parser, Kind.map.hint) := by decide +kernel
  cases h : readTree .map misspelledText with
  | ok t =>
    rw [h] at herror
    cases herror
  | error e =>
    rw [h, Option.some.injEq, Prod.mk.injEq] at herror
    obtain ⟨hcategory, hhint⟩ := herror
    obtain ⟨hne, -, hheader, -⟩ := hint_iff_word_missing .map misspelledText e h hcategory
    exact ⟨e, rfl, hcategory, hhint,
      fun hbegins => hne (hhint.symm.trans (hheader hbegins))⟩

/-- A profile whose first line has no equals sign. -/
def unequalText : String := "name \"weather\"\nversion = \"1.0.0\"\n"

/-- A header that breaks off at an equals sign gets no hint. -/
theorem no_hint_of_unequal : ¬ ∀ kind text e, readTree kind text = .error e →
    e.category = .parser → (e.hint = kind.hint ↔ ¬ BeginsWithHeader kind text.toList) := by
  intro hclaim
  have herror : (match readTree .profile unequalText with
      | .error e => some (e.category, e.hint)
      | .ok _ => none) = some (.parser, none) := by decide +kernel
  have hheader : ¬ BeginsWithHeader .profile unequalText.toList := by
    rw [beginsWithHeader_iff_not, not_not]
    let rest := "\"weather\"\nversion = \"1.0.0\"\n".toList
    have hword : Cursor.Spells ⟨unequalText.toList, 0⟩ "name".toList ⟨' ' :: rest, 4⟩ :=
      ⟨by decide +kernel, by decide +kernel⟩
    have hgap : Gap ⟨' ' :: rest, 4⟩ ⟨rest, 5⟩ := .blank (.inl rfl) ⟨rfl, rfl⟩ (.nothing _)
    have hhead : rest.head? = some '"' := by decide +kernel
    have hequals : ¬ ['='] <+: rest := by decide +kernel
    exact ⟨⟨rest, 5⟩, _, _, .nothing _,
      gapEnd_of_head (by decide +kernel : unequalText.toList.head? = some 'n') (by decide),
      .first (.equals hword hgap (gapEnd_of_head hhead (by decide)) hequals)⟩
  cases h : readTree .profile unequalText with
  | ok t =>
    rw [h] at herror
    cases herror
  | error e =>
    rw [h, Option.some.injEq, Prod.mk.injEq] at herror
    obtain ⟨hcategory, hhint⟩ := herror
    exact hint_ne_none (((hclaim _ _ e h hcategory).mpr hheader).symm.trans hhint)

end Contracts
