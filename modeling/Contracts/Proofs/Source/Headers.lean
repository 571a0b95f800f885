import Contracts.Proofs.Source.Documents
import Contracts.Proofs.Source.Missing

/-!
Where headers break off.

A header has to have two lines, and a line is a word, an equals sign and a string that can be read
as a value. A text begins with these lines, or there is a first part of them that is not there. In
the second case this part is the one thing that the grammar misses. In the first case the grammar
misses something behind the lines, and no part of them.
-/

namespace Contracts

open Spelling

/-- A line that the header of a document has to have: the word that it begins with, what is missing
behind a string that it does not accept, and which strings it accepts. -/
structure HeaderLine where
  word : String
  refusal : Expected
  accepts : String → Bool

def Kind.firstLine : Kind → HeaderLine
  | .profile => ⟨"name", .documentName, fun text => (DocumentName.ofText? text).isSome⟩
  | .map => ⟨"profile", .profileId, fun text => (ProfileId.ofText? text).isSome⟩

def Kind.secondLine : Kind → HeaderLine
  | .profile => ⟨"version", .version, fun text => (Version.ofText? text).isSome⟩
  | .map => ⟨"provider", .string, fun _ => true⟩

namespace Spelling

variable {line : HeaderLine} {kind : Kind} {lines : Lines} {text : List Char}
  {c c₁ c₂ c' : Cursor} {what : Expected}

/-- A line of a header with a string that it accepts. -/
def Accepted (line : HeaderLine) (c c' : Cursor) : Prop :=
  ∃ text, Setting line.word text c c' ∧ line.accepts text = true

/-- A line of a header begins at one cursor and breaks off at another, where a part is missing. -/
inductive LineBreak (line : HeaderLine) : Cursor → Cursor → Expected → Prop
  | word {c : Cursor} (h : ¬ line.word.toList <+: c.rest) :
      LineBreak line c c (.literal line.word)
  | equals {c c₁ c' : Cursor} (hword : c.Spells line.word.toList c₁) (gap : Gap c₁ c')
      (gapEnd : GapEnd c') (h : ¬ ['='] <+: c'.rest) : LineBreak line c c' (.literal "=")
  | string {c c' : Cursor} (assigned : Assigned line.word c c') (gapEnd : GapEnd c')
      (h : ∀ text c'', ¬ Quoted text c' c'') : LineBreak line c c' .string
  | value {c c' : Cursor} {text : String} (setting : Setting line.word text c c')
      (h : line.accepts text = false) : LineBreak line c c' line.refusal

/-- A header begins at one cursor and breaks off at another, in its first or in its second line. -/
inductive HeaderBreak (kind : Kind) : Cursor → Cursor → Expected → Prop
  | first {c c' : Cursor} {what : Expected} (h : LineBreak kind.firstLine c c' what) :
      HeaderBreak kind c c' what
  | second {c c₁ c₂ c' : Cursor} {what : Expected} (hfirst : Accepted kind.firstLine c c₁)
      (gap : Gap c₁ c₂) (gapEnd : GapEnd c₂) (h : LineBreak kind.secondLine c₂ c' what) :
      HeaderBreak kind c c' what

/-- The two lines of a header. -/
inductive HeaderLines (kind : Kind) : Cursor → Cursor → Prop
  | mk {c c₁ c₂ c' : Cursor} (hfirst : Accepted kind.firstLine c c₁) (gap : Gap c₁ c₂)
      (hsecond : Accepted kind.secondLine c₂ c') : HeaderLines kind c c'

/-- The header of a text, behind the blanks and comments in front of it, breaks off at a cursor. -/
def BreaksOff (kind : Kind) (text : List Char) (c' : Cursor) (what : Expected) : Prop :=
  ∃ c, Gap ⟨text, 0⟩ c ∧ GapEnd c ∧ HeaderBreak kind c c' what

/-- A text from its start to some cursor is a complete header, with the blanks and comments in front
of it. -/
def BeginsWithHeader : Kind → List Char → Prop
  | .profile, text => ∃ c c' header, Gap ⟨text, 0⟩ c ∧
      ProfileHeader (Lines.ofText text) header c c'
  | .map, text => ∃ c c' header, Gap ⟨text, 0⟩ c ∧ MapHeader (Lines.ofText text) header c c'

lemma beginsWithHeader_iff :
    BeginsWithHeader kind text ↔ ∃ c c', Gap ⟨text, 0⟩ c ∧ HeaderLines kind c c' := by
  cases kind with
  | profile =>
    constructor
    · rintro ⟨c, c', _, hgap, hname, name_eq, gap, hversion, version_eq⟩
      exact ⟨c, c', hgap, ⟨_, hname, Option.isSome_of_eq_some name_eq⟩, gap, _, hversion,
        Option.isSome_of_eq_some version_eq⟩
    · rintro ⟨c, c', hgap, ⟨_, hname, hname'⟩, gap, _, hversion, hversion'⟩
      obtain ⟨name, name_eq⟩ := Option.isSome_iff_exists.mp hname'
      obtain ⟨version, version_eq⟩ := Option.isSome_iff_exists.mp hversion'
      exact ⟨c, c', _, hgap, hname, name_eq, gap, hversion, version_eq⟩
  | map =>
    constructor
    · rintro ⟨c, _, _, hgap, ⟨hprofile, profile_eq, gap, hprovider⟩, -⟩
      exact ⟨c, _, hgap, ⟨_, hprofile, Option.isSome_of_eq_some profile_eq⟩, gap, _, hprovider,
        rfl⟩
    · rintro ⟨c, c', hgap, ⟨_, hprofile, hprofile'⟩, gap, _, hprovider, -⟩
      obtain ⟨profile, profile_eq⟩ := Option.isSome_iff_exists.mp hprofile'
      exact ⟨c, c', _, hgap, ⟨hprofile, profile_eq, gap, hprovider⟩, .nothing _⟩

lemma exists_gap (c : Cursor) : ∃ c', Gap c c' ∧ GapEnd c' := ⟨_, gap_separators c.rest c.offset⟩

/-- A line is there, or it breaks off. -/
lemma line_or_break (line : HeaderLine) (c : Cursor) :
    (∃ c', Accepted line c c') ∨ ∃ c' what, LineBreak line c c' what := by
  by_cases hword : line.word.toList <+: c.rest
  swap
  · exact .inr ⟨c, _, .word hword⟩
  obtain ⟨c₁, gap₁, hend₁⟩ := exists_gap (c.after line.word.toList)
  by_cases hequals : ['='] <+: c₁.rest
  swap
  · exact .inr ⟨c₁, _, .equals (Cursor.spells_after hword) gap₁ hend₁ hequals⟩
  obtain ⟨c₂, gap₂, hend₂⟩ := exists_gap (c₁.after ['='])
  have assigned : Assigned line.word c c₂ :=
    ⟨Cursor.spells_after hword, gap₁, Cursor.spells_after hequals, gap₂⟩
  by_cases hquoted : ∃ text c', Quoted text c₂ c'
  swap
  · exact .inr ⟨c₂, _, .string assigned hend₂ fun text c' h => hquoted ⟨text, c', h⟩⟩
  obtain ⟨text, c', hquoted⟩ := hquoted
  cases haccepts : line.accepts text with
  | true => exact .inl ⟨c', text, ⟨assigned, hquoted⟩, haccepts⟩
  | false => exact .inr ⟨c', _, .value ⟨assigned, hquoted⟩ haccepts⟩

/-- Both lines of a header are there, or it breaks off. -/
lemma lines_or_break (kind : Kind) (c : Cursor) :
    (∃ c', HeaderLines kind c c') ∨ ∃ c' what, HeaderBreak kind c c' what := by
  obtain ⟨c₁, hfirst⟩ | ⟨c', what, hbreak⟩ := line_or_break kind.firstLine c
  swap
  · exact .inr ⟨c', what, .first hbreak⟩
  obtain ⟨c₂, gap, hend⟩ := exists_gap c₁
  obtain ⟨c', hsecond⟩ | ⟨c', what, hbreak⟩ := line_or_break kind.secondLine c₂
  · exact .inl ⟨c', hfirst, gap, hsecond⟩
  · exact .inr ⟨c', what, .second hfirst gap hend hbreak⟩

end Spelling

/-! ### Single tokens -/

namespace Parser

variable {α β : Type} {p : Parser α} {f : α → Parser β} {g : α → Option β} {c c₁ c' : Cursor}
  {a : α} {b : β} {what : Expected}

/-- The parser gives a value and misses nothing on the way. -/
def Takes (p : Parser α) (c : Cursor) (a : α) (c' : Cursor) : Prop := p c = ⟨.clear, some (a, c')⟩

/-- The parser fails, with one thing missing at a cursor. -/
def Breaks (p : Parser α) (c c' : Cursor) (what : Expected) : Prop :=
  p c = ⟨⟨c'.offset, [what]⟩, none⟩

lemma takes_offset : offset.Takes c c.offset c := rfl

lemma Takes.bind_eq (h : p.Takes c a c₁) : (p >>= f) c = f a c₁ := by
  unfold Takes at h
  simp [bind, h]

lemma Takes.bind (h : p.Takes c a c₁) (hf : (f a).Takes c₁ b c') : (p >>= f).Takes c b c' :=
  h.bind_eq.trans hf

lemma Breaks.bind (h : p.Breaks c c' what) : (p >>= f).Breaks c c' what := by
  unfold Breaks at h ⊢
  simp [Bind.bind, h]

lemma bind_congr {q : Parser α} (h : p c = q c₁) : (p >>= f) c = (q >>= f) c₁ := by
  simp [bind, h]

lemma Takes.checked (h : p.Takes c a c') (hg : g a = some b) :
    (Parser.checked what g p).Takes c b c' := by
  unfold Parser.checked
  refine h.bind ?_
  rw [hg]
  rfl

lemma Takes.breaks_checked (h : p.Takes c a c') (hg : g a = none) :
    (Parser.checked what g p).Breaks c c' what := by
  unfold Parser.checked Breaks
  rw [h.bind_eq, hg]
  rfl

lemma frontier_map {f : α → β} : ((p >>= fun a => pure (f a)) c).frontier = (p c).frontier := by
  rcases hp : p c with ⟨frontier, _ | ⟨a, next⟩⟩ <;> simp [Bind.bind, pure, hp]

/-- Every value is accepted as it is. -/
lemma checked_some : checked what some p = p := by
  funext c
  rcases hp : p c with ⟨frontier, _ | ⟨a, next⟩⟩ <;> simp [checked, Bind.bind, pure, hp]

/-- The parser takes up its token, or the token is missing at the cursor. -/
def ReadsToken (what : Expected) (p : Parser α) : Prop :=
  ∀ c, (∃ a c', p.Takes c a c') ∨ p.Breaks c c what

namespace ReadsToken

variable (hp : p.ReadsToken what)

include hp

lemma takes (h : p.Gives c a c') : p.Takes c a c' := by
  obtain ⟨a', c'', htakes⟩ | hbreaks := hp c
  · have hgives : p.Gives c a' c'' := congrArg Reply.result htakes
    obtain ⟨rfl, rfl⟩ := hgives.unique h
    exact htakes
  · exact absurd (congrArg Reply.result hbreaks) h.not_fails

lemma breaks (h : ∀ a c', ¬ p.Gives c a c') : p.Breaks c c what :=
  (hp c).resolve_left fun ⟨a, c', htakes⟩ => h a c' (congrArg Reply.result htakes)

end ReadsToken

lemma readsToken_token (read : List Char → Option (List Char)) :
    (token what read).ReadsToken what := fun c => by
  unfold Takes Breaks token
  split
  · exact .inl ⟨_, _, rfl⟩
  · exact .inr rfl

lemma readsToken_literal (word : String) : (literal word).ReadsToken (.literal word) := fun c => by
  unfold Takes Breaks literal
  split
  · exact .inl ⟨_, _, rfl⟩
  · exact .inr rfl

lemma takes_literal {word : String} (h : c.Spells word.toList c') : (literal word).Takes c () c' :=
  (readsToken_literal word).takes (gives_literal.mpr h)

lemma breaks_literal (word : String) (h : ¬ word.toList <+: c.rest) :
    (literal word).Breaks c c (.literal word) :=
  (readsToken_literal word).breaks fun _ _ hgives =>
    h (Cursor.spells_iff.mp (gives_literal.mp hgives)).1

end Parser

namespace Grammar

open Contracts.Parser

variable {α β : Type} {line : HeaderLine} {kind : Kind} {lines : Lines} {p : Parser α}
  {k : α → Parser β} {g : String → Option α} {c c₁ c' : Cursor} {a : α} {word : String}
  {text : List Char} {what : Expected}

lemma readsToken_string : string.ReadsToken .string := fun c =>
  (readsToken_token _ c).imp (fun ⟨_, c', h⟩ => ⟨_, c', h.bind rfl⟩) fun h => h.bind

lemma takes_string {s : String} (h : Quoted s c c') : string.Takes c s c' :=
  readsToken_string.takes (gives_string.mpr h)

lemma breaks_string (h : ∀ s c', ¬ Quoted s c c') : string.Breaks c c .string :=
  readsToken_string.breaks fun s c' hgives => h s c' (gives_string.mp hgives)

lemma takes_gap (h : Gap c c') (hend : GapEnd c') : gap.Takes c () c' := by
  have hgives : gap.Gives c () c' := gives_gap.mpr ⟨h, hend⟩
  exact congrArg (Reply.mk Frontier.clear) hgives

/-! ### Lines -/

lemma assigned_eq (h : Assigned word c c₁) (hend : GapEnd c₁) :
    (do literal word; gap; literal "="; gap; p) c = p c₁ := by
  obtain ⟨hword, gap₁, equals, gap₂⟩ := h
  have hend₁ : GapEnd _ := gapEnd_of_head equals.head (by decide)
  rw [(takes_literal hword).bind_eq, (takes_gap gap₁ hend₁).bind_eq,
    (takes_literal equals).bind_eq, (takes_gap gap₂ hend).bind_eq]

/-- Where a line breaks off, its parser fails with the one thing missing that is missing there. -/
lemma breaks_line (line : HeaderLine) (hg : ∀ s, line.accepts s = (g s).isSome)
    (h : LineBreak line c c' what) : Breaks (do
      literal line.word
      gap
      literal "="
      gap
      let a ← checked line.refusal g string
      k a) c c' what := by
  cases h with
  | word h => exact (breaks_literal line.word h).bind
  | equals hword hgap hend h =>
    unfold Breaks
    rw [(takes_literal hword).bind_eq, (takes_gap hgap hend).bind_eq]
    exact (breaks_literal "=" h).bind
  | string assigned hend h =>
    unfold Breaks
    rw [assigned_eq assigned hend]
    exact (breaks_string h).bind.bind
  | value setting h =>
    obtain ⟨assigned, quoted⟩ := setting
    rw [hg, Option.isSome_eq_false_iff, Option.isNone_iff_eq_none] at h
    unfold Breaks
    rw [assigned_eq assigned quoted.gapEnd]
    exact ((takes_string quoted).breaks_checked h).bind

/-- Where a line is, its parser takes it up. -/
lemma exists_line_eq (line : HeaderLine) (hg : ∀ s, line.accepts s = (g s).isSome)
    (h : Accepted line c c') : ∃ a, (do
      literal line.word
      gap
      literal "="
      gap
      let a ← checked line.refusal g string
      k a) c = k a c' := by
  obtain ⟨s, ⟨assigned, quoted⟩, haccepts⟩ := h
  obtain ⟨a, ha⟩ := Option.isSome_iff_exists.mp ((hg s).symm.trans haccepts)
  refine ⟨a, ?_⟩
  rw [assigned_eq assigned quoted.gapEnd, ((takes_string quoted).checked ha).bind_eq]

lemma gap_unique (h : Gap c c₁) (hend : GapEnd c₁) (h' : Gap c c') (hend' : GapEnd c') : c₁ = c' :=
  (Gives.unique (gives_gap (u := ()).mpr ⟨h, hend⟩) (gives_gap (u := ()).mpr ⟨h', hend'⟩)).2

lemma assigned_unique (h : Assigned word c c₁) (hend : GapEnd c₁) (h' : Assigned word c c')
    (hend' : GapEnd c') : c₁ = c' :=
  (Gives.unique
    ((gives_assigned (p := pure ())).mpr ⟨_, h, hend, gives_pure.mpr ⟨rfl, rfl⟩⟩)
    ((gives_assigned (p := pure ())).mpr ⟨_, h', hend', gives_pure.mpr ⟨rfl, rfl⟩⟩)).2

lemma setting_unique {s t : String} (h : Setting word s c c₁) (h' : Setting word t c c') :
    s = t ∧ c₁ = c' := by
  obtain ⟨assigned, quoted⟩ := h
  obtain ⟨assigned', quoted'⟩ := h'
  rw [← assigned_unique assigned quoted.gapEnd assigned' quoted'.gapEnd] at quoted'
  exact (gives_string.mpr quoted).unique (gives_string.mpr quoted')

/-- A line that is accepted does not break off. -/
lemma not_lineBreak (h : Accepted line c c₁) : ¬ LineBreak line c c' what := by
  obtain ⟨s, setting, haccepts⟩ := h
  have hcopy := setting
  obtain ⟨assigned, quoted⟩ := hcopy
  have hcopy := assigned
  obtain ⟨hword, gap₁, equals, -⟩ := hcopy
  intro hbreak
  -- what is missing where the line breaks off stands there, since both go the same way up to it
  cases hbreak with
  | word h => exact h (Cursor.spells_iff.mp hword).1
  | equals hword' hgap hend h =>
    rw [hword.unique hword'] at gap₁
    have hend₁ : GapEnd _ := gapEnd_of_head equals.head (by decide)
    rw [gap_unique gap₁ hend₁ hgap hend] at equals
    exact h (Cursor.spells_iff.mp equals).1
  | string assigned' hend h =>
    rw [assigned_unique assigned quoted.gapEnd assigned' hend] at quoted
    exact h _ _ quoted
  | value setting' h =>
    obtain ⟨rfl, -⟩ := setting_unique setting setting'
    rw [haccepts] at h
    cases h

/-! ### Headers -/

lemma gapEnd_of_accepted (hline : line = kind.firstLine ∨ line = kind.secondLine)
    (h : Accepted line c c') : GapEnd c := by
  obtain ⟨_, ⟨assigned, -⟩, -⟩ := h
  obtain rfl | rfl := hline <;> cases kind <;> exact assigned.gapEnd rfl (by decide)

lemma gapEnd_of_headerLines (h : HeaderLines kind c c') : GapEnd c := by
  obtain ⟨hfirst, -, -⟩ := h
  exact gapEnd_of_accepted (.inl rfl) hfirst

/-- A header that is there does not break off. -/
lemma not_headerBreak (h : HeaderLines kind c c₁) : ¬ HeaderBreak kind c c' what := by
  obtain ⟨hfirst, hgap, hsecond⟩ := h
  rintro (hbreak | ⟨hfirst', hgap', hend', hbreak⟩)
  · exact not_lineBreak hfirst hbreak
  · obtain ⟨s, setting, -⟩ := hfirst
    obtain ⟨t, setting', -⟩ := hfirst'
    have hend := gapEnd_of_accepted (.inr rfl) hsecond
    rw [← (setting_unique setting setting').2] at hgap'
    rw [← gap_unique hgap hend hgap' hend'] at hbreak
    exact not_lineBreak hsecond hbreak

lemma breaks_profileHeader (h : HeaderBreak .profile c c' what) :
    (profileHeader lines).Breaks c c' what := by
  unfold profileHeader Breaks
  rw [takes_offset.bind_eq]
  cases h with
  | first h => exact breaks_line Kind.profile.firstLine (fun _ => rfl) h
  | second hfirst hgap hend h =>
    obtain ⟨name, hname⟩ := exists_line_eq Kind.profile.firstLine (fun _ => rfl) hfirst
    refine hname.trans ?_
    rw [(takes_gap hgap hend).bind_eq]
    exact breaks_line Kind.profile.secondLine (fun _ => rfl) h

/-- The provider may be any string. -/
lemma checked_provider : checked Kind.map.secondLine.refusal some string = string := checked_some

lemma breaks_mapHeader (h : HeaderBreak .map c c' what) : (mapHeader lines).Breaks c c' what := by
  unfold mapHeader Breaks
  rw [takes_offset.bind_eq]
  cases h with
  | first h => exact breaks_line Kind.map.firstLine (fun _ => rfl) h
  | second hfirst hgap hend h =>
    obtain ⟨profile, hprofile⟩ := exists_line_eq Kind.map.firstLine (fun _ => rfl) hfirst
    refine hprofile.trans ?_
    rw [(takes_gap hgap hend).bind_eq, ← checked_provider]
    exact breaks_line Kind.map.secondLine (g := some) (fun _ => rfl) h

/-- Behind its two lines a header misses no part of them. -/
lemma exists_profileHeader_eq (lines : Lines) (h : HeaderLines .profile c c') :
    ∃ q : Parser ProfileHeader, q.MissesOnly laterTokens ∧ profileHeader lines c = q c' := by
  obtain ⟨hfirst, hgap, hsecond⟩ := h
  have hend := gapEnd_of_accepted (.inr rfl) hsecond
  obtain ⟨name, hname⟩ := exists_line_eq Kind.profile.firstLine (fun _ => rfl) hfirst
  obtain ⟨version, hversion⟩ := exists_line_eq Kind.profile.secondLine (fun _ => rfl) hsecond
  refine ⟨_, ?_, (takes_offset.bind_eq.trans hname).trans
    ((takes_gap hgap hend).bind_eq.trans hversion)⟩
  exact missesOnly_offset.bind fun _ => missesOnly_pure _

lemma exists_mapHeader_eq (lines : Lines) (h : HeaderLines .map c c') :
    ∃ q : Parser MapHeader, q.MissesOnly laterTokens ∧ mapHeader lines c = q c' := by
  obtain ⟨hfirst, hgap, hsecond⟩ := h
  have hend := gapEnd_of_accepted (.inr rfl) hsecond
  obtain ⟨profile, hprofile⟩ := exists_line_eq Kind.map.firstLine (fun _ => rfl) hfirst
  obtain ⟨provider, hprovider⟩ :=
    exists_line_eq Kind.map.secondLine (g := some) (fun _ => rfl) hsecond
  rw [checked_provider] at hprovider
  refine ⟨_, ?_, (takes_offset.bind_eq.trans hprofile).trans
    ((takes_gap hgap hend).bind_eq.trans hprovider)⟩
  -- the variant is tried behind the two lines, so its word may be missing
  have hvariant : MissesOnly laterTokens
      (do gap; literal "variant"; gap; literal "="; gap; string) :=
    missesOnly_gap.bind fun _ => (missesOnly_literal (by decide)).bind fun _ =>
      missesOnly_gap.bind fun _ => (missesOnly_literal (by decide)).bind fun _ =>
        missesOnly_gap.bind fun _ => missesOnly_string
  exact hvariant.optional.bind fun _ => missesOnly_offset.bind fun _ => missesOnly_pure _

/-- A document begins with its header, behind a gap. -/
lemma framed_eq {header : Parser α} {rest : Nat → α → Parser β} (hgap : Gap c c₁)
    (hend : GapEnd c₁) : (do gap; let start ← offset; let head ← header; rest start head) c =
      (header >>= rest c₁.offset) c₁ := by
  rw [(takes_gap hgap hend).bind_eq, takes_offset.bind_eq]

/-- The one error of a text without a header: what is missing where the header breaks off. -/
lemma breaks_document (h : BreaksOff kind text c' what) :
    (document lines kind).Breaks ⟨text, 0⟩ c' what := by
  obtain ⟨c, hgap, hend, hbreak⟩ := h
  cases kind with
  | profile => exact .bind ((framed_eq hgap hend).trans (breaks_profileHeader hbreak).bind)
  | map => exact .bind ((framed_eq hgap hend).trans (breaks_mapHeader hbreak).bind)

/-- A document misses only later tokens if its header misses only those from a cursor on. -/
lemma missed_behind_header {γ : Type} {header q : Parser α} {definition : Parser β}
    (build : α → List β → Location → γ) (hgap : Gap c c₁) (hend : GapEnd c₁)
    (hq : q.MissesOnly laterTokens) (heq : header c₁ = q c')
    (hdefinition : definition.MissesOnly laterTokens) :
    ∀ what ∈ ((do
      gap
      let start ← offset
      let head ← header
      gap
      let definitions ← many (do let d ← definition; gap; pure d)
      let stop ← offset
      ending
      pure (build head definitions (lines.location start stop))) c).frontier.expected,
      what ∈ laterTokens := by
  rw [framed_eq hgap hend, bind_congr heq]
  exact (hq.bind fun head => missesOnly_definitions (build head) c₁.offset hdefinition) c'

/-- Behind its header a text misses none of the words that the header begins with. -/
lemma missed_of_headerLines (hgap : Gap ⟨text, 0⟩ c) (h : HeaderLines kind c c') :
    ∀ what ∈ (document lines kind ⟨text, 0⟩).frontier.expected, what ∈ laterTokens := by
  have hend := gapEnd_of_headerLines h
  cases kind with
  | profile =>
    obtain ⟨q, hq, heq⟩ := exists_profileHeader_eq lines h
    unfold document
    rw [frontier_map]
    exact missed_behind_header Profile.mk hgap hend hq heq missesOnly_profileDefinition
  | map =>
    obtain ⟨q, hq, heq⟩ := exists_mapHeader_eq lines h
    unfold document
    rw [frontier_map]
    exact missed_behind_header MapDocument.mk hgap hend hq heq missesOnly_mapDefinition

end Grammar

namespace Spelling

/-- A text begins with a header exactly if its header does not break off. -/
lemma beginsWithHeader_iff_not (kind : Kind) (text : List Char) :
    BeginsWithHeader kind text ↔ ¬ ∃ c what, BreaksOff kind text c what := by
  rw [beginsWithHeader_iff]
  constructor
  · rintro ⟨c, c', hgap, hlines⟩ ⟨c'', what, d, hgap', hend', hbreak⟩
    have hend := Grammar.gapEnd_of_headerLines hlines
    rw [← Grammar.gap_unique hgap hend hgap' hend'] at hbreak
    exact Grammar.not_headerBreak hlines hbreak
  · intro hnone
    obtain ⟨c, hgap, hend⟩ := exists_gap ⟨text, 0⟩
    obtain ⟨c', hlines⟩ | ⟨c', what, hbreak⟩ := lines_or_break kind c
    · exact ⟨c, c', hgap, hlines⟩
    · exact absurd ⟨c', what, c, hgap, hend, hbreak⟩ hnone

end Spelling

end Contracts
