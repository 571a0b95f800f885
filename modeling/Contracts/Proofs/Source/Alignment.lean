import Contracts.Proofs.Source.Faithful
import Contracts.Proofs.Source.Maps
import Contracts.Proofs.Source.Profiles

/-!
Where the grammar and the pre-scan agree on the tokens of a text.

Rule by rule the tokens of the grammar are those of the pre-scan. The rules for strings in a header
do not know about three quotes, so an empty string there may slip; what a header checks is never
empty, which leaves the provider and the variant of a map. In a body a quote comes to the rule for
single characters only where no string begins, and in a closed text there is no such quote.
-/

namespace Contracts

open Spelling

/-- The provider or the variant of a map is an empty string. -/
def MapHeader.HasEmptyString (header : MapHeader) : Prop :=
  header.provider = "" ∨ header.variant = some ""

/-- No string that a profile keeps in its header may be empty. -/
def Tree.HasEmptyString : Tree → Prop
  | .profile _ => False
  | .map m => m.header.HasEmptyString

namespace Trace

open Contracts.Parser Contracts.Traced

variable {α : Type} {lines : Lines} {inner : Traced (List CallSite)} {c c' : Cursor} {word : String}

/-! ### Tokens -/

/-- No character of a word begins a string or a comment. -/
def isPlain (word : String) : Bool := word.toList.all fun ch => ch != '"' && ch != '/'

lemma ne_of_isPlain (h : isPlain word = true) : ∀ ch ∈ word.toList, ch ≠ '"' ∧ ch ≠ '/' := by
  simpa [isPlain] using h

lemma separators_of_gapEnd (h : GapEnd c) : separators c.rest = [] := by
  unfold GapEnd at h
  cases hrest : c.rest with
  | nil => rw [separators]
  | cons ch cs =>
    rw [hrest, Token.separators] at h
    by_cases hblank : ch = ' ' ∨ ch = '\t' ∨ ch = '\r' ∨ ch = '\n'
    · rw [if_pos hblank] at h
      cases h
    · rw [if_neg hblank] at h
      rw [separators, if_neg hblank]
      cases hcomment : Token.comment? (ch :: cs) with
      | none => rfl
      | some t =>
        rw [hcomment] at h
        obtain ⟨-, -, s, rfl, -⟩ := Token.comment?_eq_some.mp hcomment
        cases h

/-- Along the gap, to the place where no more of it is ahead. -/
lemma scans_gap (h : Gap c c') (hend : GapEnd c') :
    c.rest = (separators c.rest).flatMap Token.text ++ c'.rest ∧
      (c.Closed → c.Scans (separators c.rest) c') := by
  induction h with
  | nothing =>
    rw [separators_of_gapEnd hend]
    exact ⟨rfl, .refl⟩
  | @blank c c₁ c' ch hch here more ih =>
    obtain ⟨hspelled, hscans⟩ := ih hend
    have hplain : ch ≠ '"' ∧ ch ≠ '/' := by rcases hch with rfl | rfl | rfl | rfl <;> decide
    have htokens : separators c.rest = .character ch :: separators c₁.rest := by
      rw [here.1, List.singleton_append, separators, if_pos hch]
    rw [htokens, List.flatMap_cons, List.append_assoc, ← hspelled]
    refine ⟨here.1, fun hc => ?_⟩
    have hfirst := (Cursor.reads_character here hplain.1 (here.plain hplain.2)).scans hc
    exact hfirst.trans (hscans hfirst.closed)
  | @comment c c₁ c' here more ih =>
    obtain ⟨hspelled, hscans⟩ := ih hend
    obtain ⟨t, ht, hhere⟩ := comment_iff.mp here
    have htokens : separators c.rest = .comment t :: separators c₁.rest := by
      obtain ⟨-, -, s, rfl, -⟩ := Token.comment?_eq_some.mp ht
      rw [hhere.1] at ht ⊢
      rw [List.cons_append] at ht ⊢
      rw [separators, if_neg (by decide), ht]
      simp
    rw [htokens, List.flatMap_cons, List.append_assoc, ← hspelled]
    refine ⟨hhere.1, fun hc => ?_⟩
    have hfirst := (Cursor.reads_comment hhere ht).scans hc
    exact hfirst.trans (hscans hfirst.closed)

lemma strict_gap : gap.Strict := fun _ => by
  refine ⟨fun hg => ?_, fun hc hg => ?_⟩ <;> obtain ⟨hgap, hend⟩ := Grammar.gives_gap.mp hg
  · exact (scans_gap hgap hend).1
  · exact .inl ((scans_gap hgap hend).2 hc)

lemma strict_offset : offset.Strict := faithful_silent fun _ _ _ hg => (gives_offset.mp hg).2.symm

lemma strict_literal (hword : isPlain word = true) : (literal word).Strict :=
  strict_characters fun hg => ⟨_, gives_literal.mp hg, ne_of_isPlain hword⟩

lemma strict_keyword (hword : isPlain word = true) : (keyword word).Strict :=
  strict_characters fun hg => ⟨_, (Grammar.gives_keyword.mp hg).here, ne_of_isPlain hword⟩

lemma strict_identifier : identifier.Strict := strict_characters fun hg => by
  have hident := Grammar.gives_identifier.mp hg
  refine ⟨_, hident.spells, fun x hx => ?_⟩
  obtain ⟨hquote, hslash, -⟩ := isIdentChar_ne (hident.isIdentChar x hx)
  exact ⟨hquote, hslash⟩

lemma strict_comment : comment.Strict := fun _ => faithfulAt_single (fun _ => rfl) fun hg => by
  obtain ⟨t, ht, here⟩ := comment_iff.mp (Grammar.gives_comment.mp hg)
  exact ⟨t, here, fun _ => .inl (Cursor.reads_comment here ht)⟩

/-- Only an empty string may have a quote right behind it that the pre-scan counts in. -/
lemma faithful_string : string.Faithful (· = "") := fun _ =>
  faithfulAt_single (fun _ => rfl) fun {text c'} hg => by
    have quoted := Grammar.gives_string.mp hg
    refine ⟨_, quoted.here, fun hc => ?_⟩
    by_cases hslips : text = "" ∧ c'.rest.head? = some '"'
    · obtain ⟨rfl, hquote⟩ := hslips
      exact .inr ⟨rfl, [], [], rfl, hquote⟩
    · exact .inl (hc.reads_literal (quoted.literal fun hempty hquote => hslips ⟨hempty, hquote⟩))

/-- What is not empty is read from a string that does not slip. -/
lemma strict_checked {what : Expected} {f : String → Option α}
    (hf : ∀ {text a}, f text = some a → text ≠ "") : (checked what f string).Strict := fun c =>
  (faithful_string.checked c).mono fun _ ⟨_, hempty, hsome⟩ => hf hsome hempty

lemma strict_docString : docString.Strict := fun c => by
  refine .orElse (faithfulAt_single (fun _ => rfl) fun hg => ?_) fun hfails =>
    faithfulAt_single (fun _ => rfl) fun {text c'} hg => ?_
  · have hdocString := Grammar.gives_tripleQuoted.mp hg
    exact ⟨_, hdocString.here, fun _ => .inl (Cursor.reads_docString hdocString)⟩
  · have quoted := Grammar.gives_string.mp hg
    refine ⟨_, quoted.here, fun hc => .inl (hc.reads_literal ⟨quoted, fun hquotes => ?_⟩)⟩
    obtain ⟨text', c₁, hdocString⟩ := hc.exists_docString hquotes
    exact (Grammar.gives_tripleQuoted.mpr hdocString).not_fails hfails

lemma faithfulAt_filler (hstring : Grammar.docString.Fails c) (hcomment : Grammar.comment.Fails c) :
    filler.FaithfulAt (fun _ => False) c := faithfulAt_characters fun hg => by
  obtain ⟨ch, here, -⟩ := Grammar.gives_filler.mp hg
  refine ⟨_, here, fun hc => ?_⟩
  obtain ⟨hquote, plain⟩ := Grammar.plain_of_fails hc hstring hcomment here.head
  exact (Cursor.reads_character here hquote plain).scans hc

/-! ### Bodies -/

lemma strict_callSite : (callSite lines).Strict :=
  strict_offset.bind fun _ => (strict_keyword (by decide)).bind fun _ => strict_gap.bind fun _ =>
    strict_identifier.bind fun _ => strict_offset.bind fun _ => faithful_pure _

lemma strict_bodyItem (hinner : inner.Strict) : (bodyItem lines inner).Strict := fun c => by
  refine .orElse (strict_callSite.bind (fun _ => faithful_pure _) c) fun _ => ?_
  refine .orElse (hinner c) fun _ => ?_
  refine .orElse (strict_docString.bind (fun _ => faithful_pure _) c) fun hstring => ?_
  refine .orElse (strict_comment.bind (fun _ => faithful_pure _) c) fun hcomment => ?_
  refine .orElse (strict_identifier.bind (fun _ => faithful_pure _) c) fun _ => ?_
  have hfiller := faithfulAt_filler (fails_map.mp hstring) (fails_map.mp hcomment)
  exact hfiller.bind (fun _ => faithful_pure _) fun _ _ _ _ h => h.elim

lemma strict_bodyWithin (depth : Nat) : (bodyWithin lines depth).Strict := by
  induction depth with
  | zero => exact faithful_silent fun _ _ _ hg => absurd hg not_gives_missing
  | succ depth ih =>
    exact (strict_literal (by decide)).bind fun _ => (strict_bodyItem ih).many.bind fun _ =>
      (strict_literal (by decide)).bind fun _ => faithful_pure _

lemma strict_body : (body lines).Strict := fun c => by
  have hwithin : (bodyWithin lines c.rest.length).FaithfulAt (fun _ => False) c :=
    strict_bodyWithin c.rest.length c
  have hsame : ∀ {calls c'}, (Grammar.body lines).Gives c calls c' →
      (bodyWithin lines c.rest.length).parser.Gives c calls c' := fun hg => by
    rw [parser_bodyWithin]
    exact hg
  exact ⟨fun hg => hwithin.spelled (hsame hg), fun hc hg => hwithin.scanned hc (hsame hg)⟩

/-! ### Profiles -/

/-- A line of a header. -/
lemma faithful_assigned {L : α → Prop} {t : Traced α} (hword : isPlain word = true)
    (ht : t.Faithful L) : Faithful L (do literal word; gap; literal "="; gap; t) :=
  (strict_literal hword).bind fun _ => strict_gap.bind fun _ =>
  (strict_literal (by decide)).bind fun _ => strict_gap.bind fun _ => ht

lemma strict_profileHeader : (profileHeader lines).Strict := by
  refine strict_offset.bind fun _ => faithful_assigned (by decide) ?_
  refine (strict_checked Grammar.ne_empty_of_documentName).bind fun _ => strict_gap.bind fun _ => ?_
  refine faithful_assigned (by decide) ?_
  refine (strict_checked Grammar.ne_empty_of_version).bind fun _ => ?_
  exact strict_offset.bind fun _ => faithful_pure _

lemma strict_safety : safety.Strict :=
  .orElse ((strict_keyword (by decide)).bind fun _ => faithful_pure _)
    (.orElse ((strict_keyword (by decide)).bind fun _ => faithful_pure _)
      ((strict_keyword (by decide)).bind fun _ => faithful_pure _))

section Definitions

variable {start : Nat} {title : Option String}

lemma strict_usecase : (usecase lines start title).Strict := by
  have hsafety : Strict (do let s ← safety; gap; pure s) :=
    strict_safety.bind fun _ => strict_gap.bind fun _ => faithful_pure _
  refine (strict_keyword (by decide)).bind fun _ => strict_gap.bind fun _ => ?_
  refine strict_identifier.bind fun _ => strict_gap.bind fun _ => ?_
  refine hsafety.optional.bind fun _ => strict_body.bind fun _ => ?_
  exact strict_offset.bind fun _ => faithful_pure _

lemma strict_model : (model lines start title).Strict := by
  have hbody : Strict (do gap; body lines) := strict_gap.bind fun _ => strict_body
  refine (strict_keyword (by decide)).bind fun _ => strict_gap.bind fun _ => ?_
  refine strict_identifier.bind fun _ => hbody.optional.bind fun _ => ?_
  exact strict_offset.bind fun _ => faithful_pure _

lemma strict_fieldType : (fieldType lines).Strict := by
  have hahead : (silent (.notAhead fun cs =>
      (Token.identifier? cs).any Grammar.isReserved)).Strict :=
    faithful_silent fun _ _ _ hg => (gives_notAhead.mp hg).2.symm
  exact .orElse (hahead.bind fun _ => strict_identifier) (strict_body.bind fun _ => faithful_pure _)

lemma strict_field : (field lines start title).Strict := by
  have htype : Strict (do gap; fieldType lines) := strict_gap.bind fun _ => strict_fieldType
  refine (strict_keyword (by decide)).bind fun _ => strict_gap.bind fun _ => ?_
  refine strict_identifier.bind fun _ => htype.optional.bind fun _ => ?_
  exact strict_offset.bind fun _ => faithful_pure _

end Definitions

lemma strict_profileDefinition : (profileDefinition lines).Strict := by
  have htitle : Strict (do let s ← docString; gap; pure (firstLine? s.toList)) :=
    strict_docString.bind fun _ => strict_gap.bind fun _ => faithful_pure _
  exact strict_offset.bind fun _ => htitle.optional.bind fun _ =>
    .orElse strict_usecase (.orElse strict_model strict_field)

lemma strict_ending : (silent Grammar.ending).Strict :=
  faithful_silent fun _ _ _ hg => (Grammar.gives_ending.mp hg).2.symm

lemma strict_definitions {definition : Traced α} (h : definition.Strict) :
    (many (do let d ← definition; gap; pure d)).Strict :=
  Strict.many (h.bind fun _ => strict_gap.bind fun _ => faithful_pure _)

lemma strict_profile : (profile lines).Strict := by
  refine strict_gap.bind fun _ => strict_offset.bind fun _ => strict_profileHeader.bind fun _ => ?_
  refine strict_gap.bind fun _ => (strict_definitions strict_profileDefinition).bind fun _ => ?_
  exact strict_offset.bind fun _ => strict_ending.bind fun _ => faithful_pure _

/-! ### Maps -/

lemma faithful_mapHeader : (mapHeader lines).Faithful MapHeader.HasEmptyString := by
  have hvariant : Faithful (· = "") (do gap; literal "variant"; gap; literal "="; gap; string) :=
    strict_gap.bind fun _ => faithful_assigned (by decide) faithful_string
  refine strict_offset.bind fun _ => faithful_assigned (by decide) ?_
  refine (strict_checked Grammar.ne_empty_of_profileId).bind fun _ => strict_gap.bind fun _ => ?_
  refine faithful_assigned (by decide) (faithful_string.bind (fun provider => ?_) ?_)
  · refine hvariant.optional.bind (fun variant => strict_offset.bind fun _ => faithful_pure _) ?_
    rintro _ c header c' ⟨_, rfl, rfl⟩ hg
    obtain ⟨stop, c₁, -, hg⟩ := gives_bind.mp hg
    obtain ⟨rfl, -⟩ := gives_pure.mp hg
    exact .inr rfl
  · rintro provider c header c' rfl hg
    obtain ⟨variant, c₁, -, hg⟩ := gives_bind.mp hg
    obtain ⟨stop, c₂, -, hg⟩ := gives_bind.mp hg
    obtain ⟨rfl, -⟩ := gives_pure.mp hg
    exact .inl rfl

lemma strict_mapItem {item : MapItem} (hword : isPlain word = true) :
    (mapItem lines word item).Strict := by
  have htitle : Strict (do let _ ← docString; gap) := strict_docString.bind fun _ => strict_gap
  refine strict_offset.bind fun _ => htitle.optional.bind fun _ => ?_
  refine (strict_keyword hword).bind fun _ => strict_gap.bind fun _ => ?_
  refine strict_identifier.bind fun _ => strict_gap.bind fun _ => strict_body.bind fun _ => ?_
  exact strict_offset.bind fun _ => faithful_pure _

lemma strict_mapDefinition : (mapDefinition lines).Strict :=
  .orElse (strict_mapItem (by decide)) (strict_mapItem (by decide))

lemma faithful_map : (map lines).Faithful fun m => m.header.HasEmptyString := by
  refine strict_gap.bind fun _ => strict_offset.bind fun _ => ?_
  refine faithful_mapHeader.bind (fun _ => ?_) ?_
  · exact strict_gap.bind fun _ => (strict_definitions strict_mapDefinition).bind fun _ =>
      strict_offset.bind fun _ => strict_ending.bind fun _ => faithful_pure _
  · intro header c m c' hempty hg
    obtain ⟨_, c₁, -, hg⟩ := gives_bind.mp hg
    obtain ⟨_, c₂, -, hg⟩ := gives_bind.mp hg
    obtain ⟨_, c₃, -, hg⟩ := gives_bind.mp hg
    obtain ⟨_, c₄, -, hg⟩ := gives_bind.mp hg
    obtain ⟨rfl, -⟩ := gives_pure.mp hg
    exact hempty

lemma faithful_document (kind : Kind) : (document lines kind).Faithful Tree.HasEmptyString := by
  cases kind with
  | profile => exact strict_profile.bind fun _ => faithful_pure _
  | map =>
    refine faithful_map.bind (fun _ => faithful_pure _) fun m c t c' hempty hg => ?_
    obtain ⟨rfl, -⟩ := gives_pure.mp hg
    exact hempty

end Trace

/-! ### The end of the text -/

namespace Grammar

open Contracts.Parser

variable {α β : Type} {p : Parser α} {f : α → Parser β} {g : α → β} {lines : Lines} {kind : Kind}

/-- The parser leaves nothing of a text behind. -/
def Exhausts (p : Parser α) : Prop := ∀ c a c', p.Gives c a c' → c'.rest = []

lemma exhausts_ending : Exhausts ending := fun c u c' h => by
  obtain ⟨hrest, rfl⟩ := gives_ending.mp h
  exact hrest

lemma exhausts_bind (hf : ∀ a, Exhausts (f a)) : Exhausts (p >>= f) := fun c b c' h => by
  obtain ⟨a, c₁, -, h⟩ := gives_bind.mp h
  exact hf a c₁ b c' h

lemma exhausts_map (hp : Exhausts p) : Exhausts (p >>= fun a => pure (g a)) := fun c b c' h => by
  obtain ⟨a, h, -⟩ := gives_map.mp h
  exact hp c a c' h

lemma exhausts_document : Exhausts (document lines kind) := by
  cases kind with
  | profile =>
    refine exhausts_map (exhausts_bind fun _ => exhausts_bind fun _ => exhausts_bind fun _ => ?_)
    exact exhausts_bind fun _ => exhausts_bind fun _ => exhausts_bind fun _ =>
      exhausts_map exhausts_ending
  | map =>
    refine exhausts_map (exhausts_bind fun _ => exhausts_bind fun _ => exhausts_bind fun _ => ?_)
    exact exhausts_bind fun _ => exhausts_bind fun _ => exhausts_bind fun _ =>
      exhausts_map exhausts_ending

end Grammar

/-- **The tokens of the grammar.** What the grammar takes up of a text that it accepts is the whole
text, and so are the tokens of the pre-scan. They are the same tokens exactly if the grammar takes
up no empty string with a quote right behind it, and then no quote counts as a character of its own.
Only an empty provider or an empty variant of a map can be such a string. -/
theorem strings_aligned_iff (kind : Kind) (text : String) (t : Tree)
    (ht : readTree kind text = .ok t) :
    (Trace.document (Lines.ofText text.toList) kind).parser =
      Grammar.document (Lines.ofText text.toList) kind ∧
    (grammarTokens kind text).flatMap Token.text = text.toList ∧
    (tokens text.toList).flatMap Token.text = text.toList ∧
    (grammarTokens kind text = tokens text.toList ↔ ¬ Slips (grammarTokens kind text) []) ∧
    (grammarTokens kind text = tokens text.toList → .character '"' ∉ grammarTokens kind text) ∧
    (¬ t.HasEmptyString → grammarTokens kind text = tokens text.toList) := by
  obtain ⟨hstrings, c', hgives⟩ := readTree_eq_ok.mp ht
  have hclosed : Cursor.Closed ⟨text.toList, 0⟩ := hstrings
  have hend : c'.rest = [] := Grammar.exhausts_document _ _ _ hgives
  rw [← Trace.parser_document] at hgives
  have hfaithful : (Trace.document (Lines.ofText text.toList) kind).Faithful Tree.HasEmptyString :=
    Trace.faithful_document kind
  have hspelled := (hfaithful ⟨text.toList, 0⟩).spelled hgives
  rw [hend, List.append_nil] at hspelled
  have hscanned := (hfaithful ⟨text.toList, 0⟩).scanned hclosed hgives
  rw [hend] at hscanned
  have haligned : Cursor.Scans ⟨text.toList, 0⟩ (grammarTokens kind text) c' →
      grammarTokens kind text = tokens text.toList := fun hscans => by
    rw [hscans.tokens_eq, Cursor.tokens_of_nil hend, List.append_nil]
  refine ⟨Trace.parser_document _ kind, hspelled.symm, hclosed.flatMap_tokens,
    ⟨fun heq => ?_, fun hslips => ?_⟩, fun heq => ?_, fun hempty => ?_⟩
  · rw [heq]
    exact hclosed.not_slips
  · exact haligned (hscanned.resolve_right fun h => hslips h.2)
  · rw [heq]
    exact hclosed.quote_notMem_tokens
  · exact haligned (hscanned.resolve_right fun h => hempty h.1)

/-- Quotes in a documentation string, in a comment and around nothing. -/
def quotedText : String :=
  "name = \"weather\"\nversion = \"1.0.0\"\n\"\"\"Now \"\" and then\"\"\"\n" ++
    "usecase Get \x7b \"\" // \"\n\x7d"

theorem strings_aligned_quoted : ∃ t, readTree .profile quotedText = .ok t ∧
    grammarTokens .profile quotedText = tokens quotedText.toList ∧
    .character '"' ∉ grammarTokens .profile quotedText := by
  have hread : (readTree .profile quotedText).isOk = true := by decide +kernel
  cases ht : readTree .profile quotedText with
  | error e => simp [ht, Except.isOk, Except.toBool] at hread
  | ok t =>
    obtain ⟨-, -, -, -, hquote, hempty⟩ := strings_aligned_iff .profile quotedText t ht
    have haligned : grammarTokens .profile quotedText = tokens quotedText.toList := by
      obtain ⟨-, c', hgives⟩ := readTree_eq_ok.mp ht
      obtain ⟨p, -, rfl⟩ := Parser.gives_map.mp hgives
      exact hempty id
    exact ⟨t, rfl, haligned, hquote haligned⟩

/-- A map that is accepted with a quote in its body. Its provider is empty and the next string goes
on right behind it, so the pre-scan skips everything up to the three quotes of the comment. -/
def slippingText : String :=
  "profile = \"weather@1.0\"\nprovider = \"\"\"Get\" map Get \x7b\n  \"\n\x7d // \"\"\"\n"

theorem strings_not_aligned : (readTree .map slippingText).isOk = true ∧
    grammarTokens .map slippingText ≠ tokens slippingText.toList ∧
    .character '"' ∈ grammarTokens .map slippingText := by
  decide +kernel

end Contracts
