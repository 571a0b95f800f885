import Contracts.Source.Reading
import Contracts.Proofs.Source.Bodies

/-!
What profiles and maps have in common: lines of a header, titles, and definitions up to the end of
the text.

A part that may be left out is read whenever it is there, so a text in which it is left out has to
go on with something else. Behind a definition, and behind the gap after it, that is the end of the
text, a string, or one of the words that begin a definition.
-/

namespace Contracts

open Spelling

namespace Spelling

variable {c c₁ c' : Cursor} {word text : String} {title : Option String}

/-- The text is over, or goes on as a definition does. -/
inductive Start : Cursor → Prop
  | ended {c : Cursor} (h : c.rest = []) : Start c
  | title {c : Cursor} (h : c.rest.head? = some '"') : Start c
  | word {c c' : Cursor} {word : String} (hreserved : word ∈ reserved) (h : Word word c c') :
      Start c

lemma ident_of_reserved (hreserved : word ∈ reserved) (h : Word word c c') : Ident word c c' := by
  simp only [reserved, List.mem_cons, List.not_mem_nil, or_false] at hreserved
  rcases hreserved with rfl | rfl | rfl | rfl | rfl <;>
    exact ⟨rfl, by decide, List.all_eq_true.mp (by decide), h.here, h.whole⟩

lemma Start.gapEnd (h : Start c) : GapEnd c := by
  cases h with
  | ended h => exact gapEnd_of_nil h
  | title h => exact gapEnd_of_head h (by decide)
  | word hreserved h => exact (ident_of_reserved hreserved h).gapEnd

/-- A definition begins with a quote or with the first letter of one of its words. -/
lemma Start.head_ne {ch : Char} (h : Start c) (hch : ch ∉ ['"', 'u', 'm', 'f', 'o']) :
    c.rest.head? ≠ some ch := by
  cases h with
  | ended h => simp [h]
  | title h =>
    rw [h]
    rintro ⟨⟩
    exact hch (by decide)
  | word hreserved h =>
    have hhere := h.here
    simp only [reserved, List.mem_cons, List.not_mem_nil, or_false] at hreserved
    rcases hreserved with rfl | rfl | rfl | rfl | rfl <;>
    · rw [Cursor.Spells.head hhere]
      rintro ⟨⟩
      exact hch (by decide)

lemma Title.start (h : Title title c c₁) (hnext : Start c₁) : Start c := by
  cases h with
  | nothing => exact hnext
  | docString here => exact .title here.head
  | literal here => exact .title here.quoted.head

lemma Quoted.gapEnd (h : Quoted text c c') : GapEnd c := gapEnd_of_head h.head (by decide)

lemma Assigned.gapEnd {ch : Char} (h : Assigned word c c') (hword : word.toList.head? = some ch)
    (hch : ch ∉ [' ', '\t', '\r', '\n', '/']) : GapEnd c := by
  obtain ⟨hhere, -⟩ := h
  refine gapEnd_of_head ?_ hch
  rw [hhere.1, List.head?_append, hword]
  rfl

variable {α : Type} {definition : α → Cursor → Cursor → Prop} {ds : List α}

lemma Definitions.start (hstart : ∀ d c c', definition d c c' → Start c)
    (h : Definitions definition ds c c') (hend : c'.rest = []) : Start c := by
  cases h with
  | nil => exact .ended hend
  | cons here => exact hstart _ _ _ here

end Spelling

namespace Grammar

open Contracts.Parser

variable {α : Type} {p : Parser α} {c c₁ c' : Cursor} {a : α} {word text : String}

/-! ### Lines of a header -/

lemma gives_assigned : (do literal word; gap; literal "="; gap; p).Gives c a c' ↔
    ∃ c₁, Assigned word c c₁ ∧ GapEnd c₁ ∧ p.Gives c₁ a c' := by
  simp only [gives_bind, gives_literal, gives_gap]
  constructor
  · rintro ⟨-, c₁, hword, -, c₂, ⟨gap₁, -⟩, -, c₃, equals, -, c₄, ⟨gap₂, hend⟩, hp⟩
    exact ⟨c₄, ⟨hword, gap₁, equals, gap₂⟩, hend, hp⟩
  · rintro ⟨c₄, ⟨hword, gap₁, equals, gap₂⟩, hend, hp⟩
    exact ⟨(), _, hword, (), _, ⟨gap₁, gapEnd_of_head equals.head (by decide)⟩, (), _, equals, (),
      c₄, ⟨gap₂, hend⟩, hp⟩

lemma advances_gap : gap.Advances := fun _ _ _ h => (gives_gap.mp h).1.length_le

lemma consumes_keyword (hword : word ≠ "") : (keyword word).Consumes := fun _ _ _ h =>
  (gives_keyword.mp h).here.length_lt fun h => hword (String.toList_eq_nil_iff.mp h)

lemma consumes_identifier : identifier.Consumes := fun _ _ _ h => (gives_identifier.mp h).length_lt

lemma advances_body {lines : Lines} : (body lines).Advances := fun c calls c' h =>
  (consumes_bodyWithin c.rest.length).advances c calls c' h

/-- A word is not read where another letter is ahead. -/
lemma fails_keyword {x y : Char} (hword : word.toList.head? = some x)
    (hhead : c.rest.head? = some y) (hne : y ≠ x) : (keyword word).Fails c := by
  refine fails_iff.mpr fun _ c' h => hne ?_
  rw [(gives_keyword.mp h).here.1, List.head?_append, hword] at hhead
  exact (Option.some.inj hhead).symm

/-- A part behind a gap is left out if it cannot begin where the gap ends. -/
lemma fails_behind_gap (hgap : Gap c c') (hend : GapEnd c')
    (hp : p.Fails c') : (do gap; p).Fails c := by
  refine fails_bind fun u c₁ hg => ?_
  obtain rfl : c₁ = c' := (hg.unique (gives_gap (u := u).mpr ⟨hgap, hend⟩)).2
  exact hp

lemma gives_behind_gap (hgap : Gap c c₁) (hend : GapEnd c₁)
    (hp : p.Gives c₁ a c') : (do gap; p).Gives c a c' :=
  gives_bind.mpr ⟨(), c₁, gives_gap.mpr ⟨hgap, hend⟩, hp⟩

/-! ### Titles -/

section Titles

variable {title : Option String} {o : Option (Option String)} {u : Option Unit}

lemma title_cases (h : Title title c c') : title = none ∧ c = c' ∨
    ∃ text c₁, docString.Gives c text c₁ ∧ Gap c₁ c' ∧ firstLine? text.toList = title := by
  cases h with
  | nothing => exact .inl ⟨rfl, rfl⟩
  | docString here gap => exact .inr ⟨_, _, gives_docString_of_docString here, gap, rfl⟩
  | literal here gap => exact .inr ⟨_, _, gives_docString_of_literal here, gap, rfl⟩

lemma title_of_gives (hc : c.Closed) (h : docString.Gives c text c₁) (gap : Gap c₁ c') :
    Title (firstLine? text.toList) c c' := by
  rcases spelled_docString hc h with h | h
  · exact .docString h gap
  · exact .literal h gap

lemma spelled_title (hc : c.Closed)
    (h : (optional (do let s ← docString; gap; pure (firstLine? s.toList))).Gives c o c') :
    Title o.join c c' := by
  obtain ⟨a, rfl, hg⟩ | ⟨rfl, rfl, -⟩ := gives_optional.mp h
  · obtain ⟨text, c₁, htext, hg⟩ := gives_bind.mp hg
    obtain ⟨_, c₂, hgap, hg⟩ := gives_bind.mp hg
    obtain ⟨rfl, rfl⟩ := gives_pure.mp hg
    exact title_of_gives hc htext (gives_gap.mp hgap).1
  · exact .nothing c

lemma spelled_untitled (hc : c.Closed)
    (h : (optional (do let _ ← docString; gap)).Gives c u c') : ∃ title, Title title c c' := by
  obtain ⟨a, rfl, hg⟩ | ⟨rfl, rfl, -⟩ := gives_optional.mp h
  · obtain ⟨text, c₁, htext, hgap⟩ := gives_bind.mp hg
    exact ⟨_, title_of_gives hc htext (gives_gap.mp hgap).1⟩
  · exact ⟨none, .nothing c⟩

lemma fails_docString_of_ne (hquote : c.rest.head? ≠ some '"') : docString.Fails c :=
  fails_iff.mpr fun _ _ h => hquote (head_of_docString h)

lemma exists_gives_title (h : Title title c c') (hend : GapEnd c')
    (hquote : c'.rest.head? ≠ some '"') : ∃ o, o.join = title ∧
      (optional (do let s ← docString; gap; pure (firstLine? s.toList))).Gives c o c' := by
  obtain ⟨rfl, rfl⟩ | ⟨text, c₁, htext, hgap, rfl⟩ := title_cases h
  · refine ⟨none, rfl, gives_optional.mpr (.inr ⟨rfl, rfl, ?_⟩)⟩
    exact fails_bind_left (fails_docString_of_ne hquote)
  · refine ⟨some (firstLine? text.toList), rfl, gives_optional.mpr (.inl ⟨_, rfl, ?_⟩)⟩
    exact gives_bind.mpr ⟨text, c₁, htext, gives_bind.mpr ⟨(), c', gives_gap.mpr ⟨hgap, hend⟩,
      gives_pure.mpr ⟨rfl, rfl⟩⟩⟩

lemma exists_gives_untitled (h : Title title c c') (hend : GapEnd c')
    (hquote : c'.rest.head? ≠ some '"') :
    ∃ u, (optional (do let _ ← docString; gap)).Gives c u c' := by
  obtain ⟨-, rfl⟩ | ⟨text, c₁, htext, hgap, -⟩ := title_cases h
  · refine ⟨none, gives_optional.mpr (.inr ⟨rfl, rfl, ?_⟩)⟩
    exact fails_bind_left (fails_docString_of_ne hquote)
  · exact ⟨some (), gives_optional.mpr (.inl ⟨_, rfl, gives_bind.mpr ⟨text, c₁, htext,
      gives_gap.mpr ⟨hgap, hend⟩⟩⟩)⟩

end Titles

/-! ### Definitions -/

section Definitions

variable {β : Type} {view : α → β} {definition : β → Cursor → Cursor → Prop}

lemma gives_followed : (do let d ← p; gap; pure d).Gives c a c' ↔
    ∃ c₁, p.Gives c a c₁ ∧ Gap c₁ c' ∧ GapEnd c' := by
  simp only [gives_bind, gives_gap, gives_pure]
  constructor
  · rintro ⟨_, c₁, hp, -, _, hgap, rfl, rfl⟩
    exact ⟨c₁, hp, hgap⟩
  · rintro ⟨c₁, hp, hgap⟩
    exact ⟨a, c₁, hp, (), c', hgap, rfl, rfl⟩

lemma consumes_followed (hp : p.Consumes) : Consumes (do let d ← p; gap; pure d) :=
  hp.bind fun d => advances_gap.bind fun _ => advances_pure d

/-- What is read, as far as the rules have anything to say about it. -/
lemma spelled_definitions {as : List α}
    (hspelled : ∀ a c c', c.Closed → p.Gives c a c' → definition (view a) c c' ∧ c'.Closed)
    (hc : c.Closed) (h : Repeats (do let d ← p; gap; pure d) c as c') :
    Definitions definition (as.map view) c c' := by
  induction h with
  | stop => exact .nil _
  | round hround _ ih =>
    obtain ⟨c₁, hp, hgap, -⟩ := gives_followed.mp hround
    obtain ⟨hhere, hc₁⟩ := hspelled _ _ _ hc hp
    exact .cons hhere hgap (ih (hgap.closed hc₁))

/-- From the last definition to the first, each of which is followed by the start of the next one or
by the end of the text. -/
lemma exists_repeats {ds : List β} (hstart : ∀ d c c', definition d c c' → Start c)
    (hgives : ∀ d c c₁ c₂, definition d c c₁ → Gap c₁ c₂ → Start c₂ →
      ∃ a, view a = d ∧ p.Gives c a c₁)
    (hp : p.Consumes) (h : Definitions definition ds c c') (hend : c'.rest = []) :
    ∃ as, as.map view = ds ∧ Repeats (do let d ← p; gap; pure d) c as c' := by
  induction h with
  | nil => exact ⟨[], rfl, .stop ((consumes_followed hp).fails_of_nil hend)⟩
  | cons here gap more ih =>
    have hnext := more.start hstart hend
    obtain ⟨a, rfl, hgives⟩ := hgives _ _ _ _ here gap hnext
    obtain ⟨as, rfl, hmore⟩ := ih hend
    exact ⟨a :: as, rfl, .round (gives_followed.mpr ⟨_, hgives, gap, hnext.gapEnd⟩) hmore⟩

lemma gives_ending {u : Unit} : ending.Gives c u c' ↔ c.rest = [] ∧ c = c' := by
  simp [ending]

/-- A document is a header and definitions, and it is located from the header to the end. -/
lemma framed_of_gives {γ : Type} {lines : Lines} {header : Parser β} {t : γ}
    (build : β → List α → Location → γ) (hp : p.Consumes)
    (h : Gives (do
      gap
      let start ← offset
      let head ← header
      gap
      let definitions ← many (do let d ← p; gap; pure d)
      let stop ← offset
      ending
      pure (build head definitions (lines.location start stop))) c t c') :
    ∃ c₁ c₂ c₃ head definitions, Gap c c₁ ∧ header.Gives c₁ head c₂ ∧ Gap c₂ c₃ ∧
      Repeats (do let d ← p; gap; pure d) c₃ definitions c' ∧ c'.rest = [] ∧
      t = build head definitions (lines.location c₁.offset c'.offset) := by
  obtain ⟨_, c₁, hgap₁, h⟩ := gives_bind.mp h
  obtain ⟨_, _, hstart, h⟩ := gives_bind.mp h
  obtain ⟨rfl, rfl⟩ := gives_offset.mp hstart
  obtain ⟨head, c₂, hheader, h⟩ := gives_bind.mp h
  obtain ⟨_, c₃, hgap₂, h⟩ := gives_bind.mp h
  obtain ⟨definitions, _, hdefinitions, h⟩ := gives_bind.mp h
  obtain ⟨_, _, hstop, h⟩ := gives_bind.mp h
  obtain ⟨rfl, rfl⟩ := gives_offset.mp hstop
  obtain ⟨_, _, hending, h⟩ := gives_bind.mp h
  obtain ⟨hend, rfl⟩ := gives_ending.mp hending
  obtain ⟨rfl, rfl⟩ := gives_pure.mp h
  exact ⟨c₁, c₂, c₃, head, definitions, (gives_gap.mp hgap₁).1, hheader, (gives_gap.mp hgap₂).1,
    (gives_many (consumes_followed hp)).mp hdefinitions, hend, rfl⟩

end Definitions

end Grammar

/-- Reading a text ends with a tree if its strings are closed and the parser gives one. -/
lemma readTree_eq_ok {kind : Kind} {text : String} {t : Tree} : readTree kind text = .ok t ↔
    openString? text.toList = none ∧ ∃ c',
      (Grammar.document (Lines.ofText text.toList) kind).Gives ⟨text.toList, 0⟩ t c' := by
  have htext : (Lines.ofText text.toList).text = text.toList := rfl
  unfold readTree Parser.Gives
  dsimp only
  rw [htext]
  cases openString? text.toList with
  | some s => simp
  | none =>
    rcases Grammar.document (Lines.ofText text.toList) kind ⟨text.toList, 0⟩ with
      ⟨frontier, _ | ⟨tree, c⟩⟩ <;> simp

end Contracts
