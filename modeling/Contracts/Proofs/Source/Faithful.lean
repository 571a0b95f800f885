import Contracts.Proofs.Source.Maps
import Contracts.Proofs.Source.Profiles
import Contracts.Proofs.Source.Trace

/-!
The tokens of the grammar against those of the pre-scan.

Both begin a text at the same place, and whichever token the grammar takes up there, the pre-scan
takes up as well, so they stay together. They part in one way only: the grammar takes up an empty
string in a header and goes on with the quote right behind it, where the pre-scan has seen three
quotes. Titles and bodies are read with documentation strings in mind, and what the header of a
profile needs is never empty, so that leaves the provider and the variant of a map.
-/

namespace Contracts

open Spelling

namespace Cursor

variable {c c₁ c' : Cursor} {ch : Char} {s : List Char} {ts us : List Token} {token : Token}

/-! ### Runs of the pre-scan -/

/-- The pre-scan cuts the text between two cursors into tokens, and leaves a closed text. -/
structure Scans (c : Cursor) (ts : List Token) (c' : Cursor) : Prop where
  tokens_eq : tokens c.rest = ts ++ tokens c'.rest
  closed : c'.Closed

namespace Scans

lemma refl (hc : c.Closed) : c.Scans [] c := ⟨rfl, hc⟩

lemma trans (h : c.Scans ts c₁) (h' : c₁.Scans us c') : c.Scans (ts ++ us) c' :=
  ⟨by rw [h.tokens_eq, h'.tokens_eq, List.append_assoc], h'.closed⟩

end Scans

lemma Reads.scans (h : c.Reads token c') (hc : c.Closed) : c.Scans [token] c' :=
  ⟨h.tokens_eq, h.closed hc⟩

/-- Characters that begin nothing else are tokens one by one. -/
lemma scans_run (hc : c.Closed) (hs : ∀ x ∈ s, x ≠ '"' ∧ x ≠ '/') (here : c.Spells s c') :
    c.Scans (s.map .character) c' := by
  induction s generalizing c with
  | nil =>
    obtain rfl : c' = c := (spells_iff.mp here).2
    exact .refl hc
  | cons x xs ih =>
    obtain ⟨hquote, hslash⟩ := hs x List.mem_cons_self
    obtain ⟨c₁, first, more⟩ : ∃ c₁, c.Spells [x] c₁ ∧ c₁.Spells xs c' :=
      spells_append (s := [x]).mp here
    have hfirst := (reads_character first hquote (first.plain hslash)).scans hc
    exact hfirst.trans (ih hfirst.closed (fun y hy => hs y (List.mem_cons_of_mem x hy)) more)

/-- A closed text is over or goes on with a token. -/
lemma Closed.exists_reads (hc : c.Closed) (hne : c.rest ≠ []) :
    ∃ token c', c.Reads token c' := by
  obtain ⟨ch, cs, hrest⟩ := List.exists_cons_of_ne_nil hne
  obtain ⟨token, hread, -⟩ := (closed_cons hrest).mp hc
  obtain ⟨htext, hahead⟩ := Token.text_of_read hread
  rw [← hrest] at hahead
  refine ⟨token, _, spells_after hahead, htext, fun x xs hx => ?_⟩
  obtain ⟨rfl, rfl⟩ := List.cons.inj (hrest.symm.trans hx)
  exact hread

/-- Induction on the text ahead, token by token. -/
@[elab_as_elim]
lemma Closed.induction {motive : Cursor → Prop} (hc : c.Closed)
    (ended : ∀ c, c.rest = [] → motive c)
    (token : ∀ c token c', c.Reads token c' → c'.Closed → motive c' → motive c) : motive c := by
  induction hn : c.rest.length using Nat.strong_induction_on generalizing c with
  | _ n ih =>
    subst hn
    by_cases hrest : c.rest = []
    · exact ended c hrest
    · obtain ⟨t, c', hreads⟩ := hc.exists_reads hrest
      have hshorter := hreads.here.length_lt hreads.text_ne
      exact token c t c' hreads (hreads.closed hc) (ih _ hshorter (hreads.closed hc) rfl)

lemma tokens_of_nil (h : c.rest = []) : tokens c.rest = [] := by
  rw [h, tokens, tokensFrom]

/-- The tokens of a closed text make it up. -/
lemma Closed.flatMap_tokens (hc : c.Closed) : (tokens c.rest).flatMap Token.text = c.rest := by
  refine hc.induction (fun c h => ?_) fun c token c' hreads _ ih => ?_
  · rw [tokens_of_nil h, h]
    rfl
  · rw [hreads.tokens_eq, List.flatMap_cons, ih, ← hreads.here.1]

/-- No quote is a token of its own. -/
lemma Closed.quote_notMem_tokens (hc : c.Closed) : Token.character '"' ∉ tokens c.rest := by
  refine hc.induction (fun c h => ?_) fun c token c' hreads hc' ih => ?_
  · rw [tokens_of_nil h]
    exact List.not_mem_nil
  · rw [hreads.tokens_eq, List.mem_cons, not_or]
    refine ⟨?_, ih⟩
    rintro rfl
    have hread := hreads.read '"' c'.rest hreads.here.1
    by_cases hquotes : quotes <+: '"' :: c'.rest
    · rw [read_quotes hquotes] at hread
      split at hread <;> cases hread
    · rw [read_quote hquotes] at hread
      split at hread <;> cases hread

end Cursor

/-- Among some tokens with `rest` behind them, a quote stands right behind an empty string. -/
def Slips (ts : List Token) (rest : List Char) : Prop :=
  ∃ before after, ts = before ++ .string ['"', '"'] :: after ∧
    (after.flatMap Token.text ++ rest).head? = some '"'

namespace Slips

variable {ts us : List Token} {rest : List Char}

lemma append_left (h : Slips us rest) (ts : List Token) : Slips (ts ++ us) rest := by
  obtain ⟨before, after, rfl, hquote⟩ := h
  exact ⟨ts ++ before, after, by rw [List.append_assoc], hquote⟩

lemma append_right (h : Slips ts (us.flatMap Token.text ++ rest)) : Slips (ts ++ us) rest := by
  obtain ⟨before, after, rfl, hquote⟩ := h
  refine ⟨before, after ++ us, by rw [List.append_assoc, List.cons_append], ?_⟩
  rwa [List.flatMap_append, List.append_assoc]

end Slips

/-- The pre-scan takes an empty string with a quote behind it for the first quotes of three. -/
lemma Cursor.Closed.not_slips {c : Cursor} (hc : c.Closed) : ¬ Slips (tokens c.rest) [] := by
  refine hc.induction (fun c h => ?_) fun c token c' hreads hc' ih => ?_
  · rw [tokens_of_nil h]
    rintro ⟨before, after, hts, -⟩
    simp at hts
  · rw [hreads.tokens_eq]
    rintro ⟨_ | ⟨first, before⟩, after, hts, hquote⟩
    · obtain ⟨rfl, rfl⟩ := List.cons.inj hts
      rw [List.append_nil, hc'.flatMap_tokens] at hquote
      obtain ⟨cs, hcs⟩ := List.head?_eq_some_iff.mp hquote
      have hrest : c.rest = '"' :: '"' :: '"' :: cs := by rw [hreads.here.1, hcs]; rfl
      have hquotes : quotes <+: '"' :: '"' :: '"' :: cs := ⟨cs, rfl⟩
      have hread := hreads.read '"' _ hrest
      rw [read_quotes hquotes] at hread
      split at hread <;> cases hread
    · obtain ⟨rfl, hmore⟩ := List.cons.inj hts
      exact ih ⟨before, after, hmore, hquote⟩

/-! ### Parts of the grammar -/

namespace Traced

open Contracts.Parser

variable {α β : Type} {L : α → Prop} {M : β → Prop} {t u : Traced α} {f : α → Traced β}
  {p : Parser α} {c c₁ c' : Cursor} {a : α} {b : β} {s : List Char}

/-- From one cursor the traced tokens are what the parser takes up, and the pre-scan goes along with
it in a closed text, unless it slips for a value that may do so. -/
structure FaithfulAt (L : α → Prop) (t : Traced α) (c : Cursor) : Prop where
  spelled : ∀ {a c'}, t.parser.Gives c a c' → c.rest = (t.tokens c).flatMap Token.text ++ c'.rest
  scanned : ∀ {a c'}, c.Closed → t.parser.Gives c a c' →
    c.Scans (t.tokens c) c' ∨ L a ∧ Slips (t.tokens c) c'.rest

def Faithful (L : α → Prop) (t : Traced α) : Prop := ∀ c, t.FaithfulAt L c

/-- No value may slip. -/
def Strict (t : Traced α) : Prop := t.Faithful fun _ => False

lemma FaithfulAt.mono {L' : α → Prop} (h : t.FaithfulAt L c) (hL : ∀ a, L a → L' a) :
    t.FaithfulAt L' c :=
  ⟨h.spelled, fun hc hg => (h.scanned hc hg).imp_right (And.imp_left (hL _))⟩

/-- What takes up nothing. -/
lemma faithful_silent (hp : ∀ c a c', p.Gives c a c' → c' = c) : (silent p).Faithful L := fun c =>
  ⟨fun hg => by rw [hp _ _ _ hg]; rfl, fun hc hg => .inl (by rw [hp _ _ _ hg]; exact .refl hc)⟩

lemma faithful_pure (a : α) : (pure a : Traced α).Faithful L :=
  faithful_silent fun _ _ _ hg => (gives_pure.mp hg).2.symm

section

variable (h : t.parser.Gives c a c₁) (hfails : t.parser.Fails c)

include h in
lemma tokens_bind : (t >>= f).tokens c = t.tokens c ++ (f a).tokens c₁ := by
  show (t.outcome c).elim [] _ = _
  rw [show t.outcome c = some (a, c₁) from h]
  rfl

include h in
lemma tokens_orElse_left : (t <|> u).tokens c = t.tokens c := by
  show (if (t.outcome c).isSome then _ else _) = _
  rw [show t.outcome c = some (a, c₁) from h]
  rfl

include hfails in
lemma tokens_orElse_right : (t <|> u).tokens c = u.tokens c := by
  show (if (t.outcome c).isSome then _ else _) = _
  rw [show t.outcome c = none from hfails]
  rfl

include h in
lemma tokens_optional_some : t.optional.tokens c = t.tokens c := by
  show (if (t.outcome c).isSome then _ else _) = _
  rw [show t.outcome c = some (a, c₁) from h]
  rfl

include hfails in
lemma tokens_optional_none : t.optional.tokens c = [] := by
  show (if (t.outcome c).isSome then _ else _) = _
  rw [show t.outcome c = none from hfails]
  rfl

include h in
lemma atMost_round (n : Nat) : t.atMost (n + 1) c = t.tokens c ++ t.atMost n c₁ := by
  rw [atMost, show t.outcome c = some (a, c₁) from h]
  rfl

include hfails in
lemma atMost_stop (n : Nat) : t.atMost (n + 1) c = [] := by
  rw [atMost, show t.outcome c = none from hfails]
  rfl

end

/-- One part after the other: where the first one slips, the whole does. -/
lemma FaithfulAt.bind (ht : t.FaithfulAt L c) (hf : ∀ a, (f a).Faithful M)
    (hLM : ∀ a c b c', L a → (f a).parser.Gives c b c' → M b) : (t >>= f).FaithfulAt M c := by
  refine ⟨fun {b c'} hg => ?_, fun {b c'} hc hg => ?_⟩
  · obtain ⟨a, c₁, hga, hgb⟩ := gives_bind.mp hg
    rw [tokens_bind hga, List.flatMap_append, List.append_assoc, ← (hf a c₁).spelled hgb]
    exact ht.spelled hga
  · obtain ⟨a, c₁, hga, hgb⟩ := gives_bind.mp hg
    rw [tokens_bind hga]
    rcases ht.scanned hc hga with hscans | ⟨hL, hslips⟩
    · rcases (hf a c₁).scanned hscans.closed hgb with hscans' | ⟨hM, hslips⟩
      · exact .inl (hscans.trans hscans')
      · exact .inr ⟨hM, hslips.append_left _⟩
    · rw [(hf a c₁).spelled hgb] at hslips
      exact .inr ⟨hLM a c₁ b c' hL hgb, hslips.append_right⟩

lemma Faithful.bind (ht : t.Faithful L) (hf : ∀ a, (f a).Faithful M)
    (hLM : ∀ a c b c', L a → (f a).parser.Gives c b c' → M b) : (t >>= f).Faithful M :=
  fun c => (ht c).bind hf hLM

lemma Strict.bind (ht : t.Strict) (hf : ∀ a, (f a).Faithful M) : (t >>= f).Faithful M :=
  Faithful.bind ht hf fun _ _ _ _ h => h.elim

/-- The second of two alternatives counts only where the first one fails. -/
lemma FaithfulAt.orElse (ht : t.FaithfulAt L c) (hu : t.parser.Fails c → u.FaithfulAt L c) :
    (t <|> u).FaithfulAt L c := by
  rcases fails_or_gives t.parser c with hfails | ⟨a, c₁, hgives⟩
  · have hsame : ∀ {a c'}, (t <|> u).parser.Gives c a c' → u.parser.Gives c a c' := fun hg =>
      (gives_orElse.mp hg).elim (fun h => absurd hfails h.not_fails) And.right
    refine ⟨fun hg => ?_, fun hc hg => ?_⟩ <;> rw [tokens_orElse_right hfails]
    · exact (hu hfails).spelled (hsame hg)
    · exact (hu hfails).scanned hc (hsame hg)
  · have hsame : ∀ {a c'}, (t <|> u).parser.Gives c a c' → t.parser.Gives c a c' := fun hg =>
      (gives_orElse.mp hg).elim id fun h => absurd h.1 hgives.not_fails
    refine ⟨fun hg => ?_, fun hc hg => ?_⟩ <;> rw [tokens_orElse_left hgives]
    · exact ht.spelled (hsame hg)
    · exact ht.scanned hc (hsame hg)

lemma Faithful.orElse (ht : t.Faithful L) (hu : u.Faithful L) : (t <|> u).Faithful L :=
  fun c => (ht c).orElse fun _ => hu c

lemma Faithful.optional (ht : t.Faithful L) :
    t.optional.Faithful fun o => ∃ a, o = some a ∧ L a := by
  refine fun c => ⟨fun {o c'} hg => ?_, fun {o c'} hc hg => ?_⟩
  · obtain ⟨a, -, hga⟩ | ⟨-, rfl, hfails⟩ := gives_optional.mp hg
    · exact tokens_optional_some hga ▸ (ht c).spelled hga
    · rw [tokens_optional_none hfails]
      rfl
  · obtain ⟨a, rfl, hga⟩ | ⟨-, rfl, hfails⟩ := gives_optional.mp hg
    · rw [tokens_optional_some hga]
      exact ((ht c).scanned hc hga).imp_right (And.imp_left fun h => ⟨a, rfl, h⟩)
    · rw [tokens_optional_none hfails]
      exact .inl (.refl hc)

lemma Strict.optional (ht : t.Strict) : t.optional.Strict :=
  fun c => (Faithful.optional ht c).mono fun _ ⟨_, _, h⟩ => h

lemma Faithful.checked {what : Expected} {g : α → Option β} (ht : t.Faithful L) :
    (t.checked what g).Faithful fun b => ∃ a, L a ∧ g a = some b := by
  refine fun c => ⟨fun hg => ?_, fun hc hg => ?_⟩
  · obtain ⟨a, hg, -⟩ := gives_checked.mp hg
    exact (ht c).spelled hg
  · obtain ⟨a, hg, hb⟩ := gives_checked.mp hg
    exact ((ht c).scanned hc hg).imp_right (And.imp_left fun h => ⟨a, h, hb⟩)

/-- Round by round, down to the last one or to the end of the count. -/
lemma Strict.many (ht : t.Strict) : t.many.Strict := by
  have hrounds : ∀ n c {as c'}, (Parser.atMost t.parser n).Gives c as c' →
      c.rest = (t.atMost n c).flatMap Token.text ++ c'.rest ∧
        (c.Closed → c.Scans (t.atMost n c) c') := by
    intro n
    induction n with
    | zero =>
      intro c as c' hg
      cases hg
      exact ⟨rfl, .refl⟩
    | succ n ih =>
      intro c as c' hg
      rcases gives_atMost_succ.mp hg with ⟨-, hfails, rfl⟩ | ⟨a, c₁, as', -, hga, hgas⟩
      · rw [atMost_stop hfails]
        exact ⟨rfl, .refl⟩
      · obtain ⟨hspelled, hscanned⟩ := ih c₁ hgas
        rw [atMost_round hga, List.flatMap_append, List.append_assoc, ← hspelled]
        refine ⟨(ht c).spelled hga, fun hc => ?_⟩
        have hfirst := ((ht c).scanned hc hga).resolve_right And.left
        exact hfirst.trans (hscanned hfirst.closed)
  exact fun c => ⟨fun hg => (hrounds _ c hg).1, fun hc hg => .inl ((hrounds _ c hg).2 hc)⟩

/-! ### Tokens -/

lemma taken_eq (hg : p.Gives c a c') (here : c.Spells s c') : taken p c = s := by
  unfold taken
  rw [show (p c).result = some (a, c') from hg]
  show c.rest.take (c.rest.length - c'.rest.length) = s
  rw [here.length, Nat.add_sub_cancel, here.1, List.take_left]

/-- A parser of one token. -/
lemma faithfulAt_single {token : List Char → Token} (htext : ∀ s, (token s).text = s)
    (h : ∀ {a c'}, p.Gives c a c' → ∃ s, c.Spells s c' ∧
      (c.Closed → c.Reads (token s) c' ∨ L a ∧ Slips [token s] c'.rest)) :
    (single token p).FaithfulAt L c := by
  refine ⟨fun {a c'} hg => ?_, fun {a c'} hc hg => ?_⟩
  · obtain ⟨s, here, -⟩ := h hg
    show c.rest = [token (taken p c)].flatMap Token.text ++ c'.rest
    rw [taken_eq (p := p) hg here, List.flatMap_singleton, htext]
    exact here.1
  · obtain ⟨s, here, hreads⟩ := h hg
    show c.Scans [token (taken p c)] c' ∨ L a ∧ Slips [token (taken p c)] c'.rest
    rw [taken_eq (p := p) hg here]
    exact (hreads hc).imp_left fun hreads => hreads.scans hc

/-- A parser of characters that the pre-scan takes one by one. -/
lemma faithfulAt_characters (h : ∀ {a c'}, p.Gives c a c' → ∃ s, c.Spells s c' ∧
    (c.Closed → c.Scans (s.map .character) c')) : (characters p).FaithfulAt L c := by
  refine ⟨fun {a c'} hg => ?_, fun {a c'} hc hg => ?_⟩
  · obtain ⟨s, here, -⟩ := h hg
    show c.rest = ((taken p c).map .character).flatMap Token.text ++ c'.rest
    have htext : (s.map .character).flatMap Token.text = s := by
      simp [List.flatMap_map, Token.text]
    rw [taken_eq (p := p) hg here, htext]
    exact here.1
  · obtain ⟨s, here, hscans⟩ := h hg
    show c.Scans ((taken p c).map .character) c' ∨ _
    rw [taken_eq (p := p) hg here]
    exact .inl (hscans hc)

/-- No character of what is taken up begins anything else. -/
lemma strict_characters
    (h : ∀ {c a c'}, p.Gives c a c' → ∃ s, c.Spells s c' ∧ ∀ x ∈ s, x ≠ '"' ∧ x ≠ '/') :
    (characters p).Strict := fun _ => faithfulAt_characters fun hg => by
  obtain ⟨s, here, hs⟩ := h hg
  exact ⟨s, here, fun hc => Cursor.scans_run hc hs here⟩

end Traced

end Contracts
