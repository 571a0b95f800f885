import Contracts.Proofs.Source.Frontier
import Contracts.Proofs.Source.Maps
import Contracts.Proofs.Source.Profiles
import Contracts.Proofs.Text.Places

/-!
How far the parts of a tree extend, and how they lie in each other.

A rule of the grammar takes its location from the cursor where it begins and the cursor where it
stops, and it takes up a character at least. Between two cursors the located parts stand one behind
the other, with room in front of them, between them and behind them. Such a row of parts is what a
body is to its calls and what a text is to its header and its definitions.
-/

namespace Contracts

namespace Cursor

variable {c c₁ c₂ c' : Cursor} {s : List Char}

/-- The text ahead of `c` goes on at `c'`, which is behind a character at least. -/
structure Moves (c c' : Cursor) : Prop where
  reaches : c.Reaches c'
  length_lt : c'.rest.length < c.rest.length

lemma Spells.moves (h : c.Spells s c₁) (hs : s ≠ []) : c.Moves c₁ := ⟨h.reaches, h.length_lt hs⟩

lemma Reaches.offset_le (h : c.Reaches c₁) : c.offset ≤ c₁.offset := by
  obtain ⟨s, hs⟩ := h
  rw [hs.2]
  exact Nat.le_add_right _ _

lemma Reaches.length_le (h : c.Reaches c₁) : c₁.rest.length ≤ c.rest.length := by
  obtain ⟨s, hs⟩ := h
  have := hs.length
  omega

lemma Reaches.trans_moves (h : c.Reaches c₁) (h' : c₁.Moves c₂) : c.Moves c₂ :=
  ⟨h.trans h'.reaches, h'.length_lt.trans_le h.length_le⟩

lemma Moves.offset_lt (h : c.Moves c₁) : c.offset < c₁.offset := by
  obtain ⟨⟨s, hs⟩, hlength⟩ := h
  cases s with
  | nil =>
    have := hs.length
    simp only [List.length_nil] at this
    omega
  | cons a s =>
    have := a.utf8Size_pos
    rw [hs.2, byteLength_cons]
    omega

end Cursor

/-! ### Rows of parts -/

section Rows

open Cursor

variable {α β : Type} {piece : α → Cursor → Cursor → Prop} {lines : Lines} {c c₁ c₂ c' : Cursor}
  {a : α} {as bs : List α} {l : Location} {ls : List Location}

/-- The parts `as` stand between two cursors, one behind the other. -/
inductive Row (piece : α → Cursor → Cursor → Prop) : Cursor → List α → Cursor → Prop
  | done {c c' : Cursor} (h : c.Reaches c') : Row piece c [] c'
  | part {c c₁ c₂ c' : Cursor} {a : α} {as : List α} (room : c.Reaches c₁) (here : piece a c₁ c₂)
      (moves : c₁.Moves c₂) (more : Row piece c₂ as c') : Row piece c (a :: as) c'

/-- The parts `as` stand between two cursors, and there is something in front of and behind them. -/
def Encloses (piece : α → Cursor → Cursor → Prop) (c : Cursor) (as : List α) (c' : Cursor) : Prop :=
  ∃ c₁ c₂, c.Moves c₁ ∧ Row piece c₁ as c₂ ∧ c₂.Moves c'

/-- The location of what stands between two cursors. -/
def Located (lines : Lines) (l : Location) (c c' : Cursor) : Prop :=
  l = lines.location c.offset c'.offset

namespace Row

lemma reaches (h : Row piece c as c') : c.Reaches c' := by
  induction h with
  | done h => exact h
  | part room _ moves _ ih => exact room.trans (moves.reaches.trans ih)

lemma behind (h : c.Reaches c₁) (h' : Row piece c₁ as c') : Row piece c as c' := by
  cases h' with
  | done h' => exact .done (h.trans h')
  | part room here moves more => exact .part (h.trans room) here moves more

lemma single (here : piece a c c') (moves : c.Moves c') : Row piece c [a] c' :=
  .part (.refl c) here moves (.done (.refl c'))

lemma append (h : Row piece c as c₁) (h' : Row piece c₁ bs c') : Row piece c (as ++ bs) c' := by
  induction h with
  | done h => exact behind h h'
  | part room here moves _ ih => exact .part room here moves (ih h')

lemma map {other : β → Cursor → Cursor → Prop} {f : α → β}
    (hf : ∀ a c c', piece a c c' → other (f a) c c') (h : Row piece c as c') :
    Row other c (as.map f) c' := by
  induction h with
  | done h => exact .done h
  | part room here moves _ ih => exact .part room (hf _ _ _ here) moves ih

/-- Where one of the parts stands. -/
lemma exists_of_mem (h : Row piece c as c') (ha : a ∈ as) :
    ∃ c₁ c₂, c.Reaches c₁ ∧ piece a c₁ c₂ ∧ c₁.Moves c₂ ∧ c₂.Reaches c' := by
  induction h with
  | done => cases ha
  | part room here moves more ih =>
    rcases List.mem_cons.mp ha with rfl | ha
    · exact ⟨_, _, room, here, moves, more.reaches⟩
    · obtain ⟨c₁, c₂, hbefore, hpiece, hmoves, hafter⟩ := ih ha
      exact ⟨c₁, c₂, room.trans (moves.reaches.trans hbefore), hpiece, hmoves, hafter⟩

/-- A part ends before the next one begins. -/
lemma increasing (h : Row (Located lines) c ls c') :
    ls.Pairwise fun a b => a.span.stop ≤ b.span.start := by
  induction h with
  | done => exact .nil
  | part _ here _ more ih =>
    refine .cons (fun b hb => ?_) ih
    obtain ⟨c₃, c₄, hbefore, hthere, -⟩ := more.exists_of_mem hb
    rw [here, hthere]
    exact hbefore.offset_le

end Row

lemma Encloses.row (h : Encloses piece c as c') : Row piece c as c' := by
  obtain ⟨c₁, c₂, hbefore, hrow, hafter⟩ := h
  have hall := hrow.append (.done hafter.reaches)
  rw [List.append_nil] at hall
  exact hall.behind hbefore.reaches

lemma Encloses.behind (h : c.Reaches c₁) (h' : Encloses piece c₁ as c') :
    Encloses piece c as c' := by
  obtain ⟨c₂, c₃, hbefore, hinside⟩ := h'
  exact ⟨c₂, c₃, h.trans_moves hbefore, hinside⟩

end Rows

/-! ### Locations in the grammar -/

namespace Parser

open Cursor

variable {α β : Type} {p q : Parser α} {f : β → Parser α} {r : Parser β} {view : α → Location}
  {lines : Lines} {start : Nat} {c c' : Cursor} {a : α}

lemma moves_of_gives (hp : p.Stays) (hconsumes : p.Consumes) (h : p.Gives c a c') : c.Moves c' :=
  ⟨(hp c).next h, hconsumes c a c' h⟩

/-- What the parser gives is located from `start` to where the parser stops. -/
def Marks (lines : Lines) (view : α → Location) (start : Nat) (p : Parser α) : Prop :=
  ∀ c a c', p.Gives c a c' → view a = lines.location start c'.offset

lemma Marks.bind (hf : ∀ b, Marks lines view start (f b)) : Marks lines view start (r >>= f) := by
  intro c a c' h
  obtain ⟨b, c₁, -, hmore⟩ := gives_bind.mp h
  exact hf b _ _ _ hmore

lemma Marks.orElse (hp : Marks lines view start p) (hq : Marks lines view start q) :
    Marks lines view start (p <|> q) := by
  intro c a c' h
  obtain h | ⟨-, h⟩ := gives_orElse.mp h
  · exact hp _ _ _ h
  · exact hq _ _ _ h

lemma marks_stop {g : Nat → α} (hg : ∀ stop, view (g stop) = lines.location start stop) :
    Marks lines view start (do let stop ← offset; pure (g stop)) := by
  intro c a c' h
  obtain ⟨_, _, hstop, h⟩ := gives_bind.mp h
  obtain ⟨rfl, rfl⟩ := gives_offset.mp hstop
  obtain ⟨rfl, rfl⟩ := gives_pure.mp h
  exact hg _

/-- A rule that remembers where it begins is located from there. -/
lemma located_of_marks {q : Nat → Parser α} (view : α → Location)
    (hq : ∀ start, Marks lines view start (q start))
    (h : (offset >>= q).Gives c a c') : Located lines (view a) c c' := by
  obtain ⟨_, _, hstart, h⟩ := gives_bind.mp h
  obtain ⟨rfl, rfl⟩ := gives_offset.mp hstart
  exact hq _ _ _ _ h

end Parser

namespace Grammar

open Contracts.Parser Cursor

variable {lines : Lines} {inner : Parser (List CallSite)} {c c' : Cursor} {calls : List CallSite}

/-! ### Calls -/

lemma moves_callSite {call : CallSite} (h : (callSite lines).Gives c call c') : c.Moves c' := by
  refine ⟨(stays_callSite c).next h, ?_⟩
  obtain ⟨name, c₁, c₂, hword, hgap, hname, -⟩ := gives_callSite.mp h
  exact (hname.length_lt.trans_le hgap.length_le).trans (hword.here.length_lt (by decide))

lemma located_callSite {call : CallSite} (h : (callSite lines).Gives c call c') :
    Located lines call.location c c' := by
  obtain ⟨name, c₁, c₂, -, -, -, rfl⟩ := gives_callSite.mp h
  rfl

/-- A piece of a body is one call, a body, or something without calls. -/
lemma row_bodyItem (hinner : ∀ c calls c', inner.Gives c calls c' →
      Row (Located lines) c (calls.map CallSite.location) c')
    (hitem : (bodyItem lines inner).Gives c calls c') :
    Row (Located lines) c (calls.map CallSite.location) c' := by
  obtain ⟨call, h, rfl⟩ | ⟨-, h | ⟨-, ⟨text, h, rfl⟩ | ⟨-, ⟨u, h, rfl⟩ | ⟨-, ⟨name, h, rfl⟩ |
    ⟨-, u, h, rfl⟩⟩⟩⟩⟩ := gives_bodyItem.mp hitem
  · exact .single (located_callSite h) (moves_callSite h)
  · exact hinner c calls c' h
  · exact .done ((stays_docString c).next h)
  · exact .done ((stays_comment c).next h)
  · exact .done ((stays_identifier c).next h)
  · exact .done ((stays_filler c).next h)

lemma row_of_repeats {p : Parser (List CallSite)} {parts : List (List CallSite)}
    (hp : ∀ c calls c', p.Gives c calls c' →
      Row (Located lines) c (calls.map CallSite.location) c')
    (h : Repeats p c parts c') :
    Row (Located lines) c (parts.flatten.map CallSite.location) c' := by
  induction h with
  | stop => exact .done (.refl _)
  | round hround _ ih =>
    rw [List.flatten_cons, List.map_append]
    exact (hp _ _ _ hround).append ih

/-- Braces stand in front of and behind the calls of a body. -/
lemma encloses_bodyWithin {depth : Nat} (h : (bodyWithin lines depth).Gives c calls c') :
    Encloses (Located lines) c (calls.map CallSite.location) c' := by
  induction depth generalizing c calls c' with
  | zero => exact absurd h not_gives_missing
  | succ depth ih =>
    obtain ⟨c₁, parts, c₂, opening, hparts, closing, rfl⟩ :=
      (gives_bodyWithin_succ (consumes_bodyItem (consumes_bodyWithin depth))).mp h
    have hitem : ∀ c calls c', (bodyItem lines (bodyWithin lines depth)).Gives c calls c' →
        Row (Located lines) c (calls.map CallSite.location) c' :=
      fun _ _ _ h => row_bodyItem (fun _ _ _ hinner => (ih hinner).row) h
    exact ⟨c₁, c₂, opening.moves (by decide), row_of_repeats hitem hparts,
      closing.moves (by decide)⟩

/-- What the parser gives is enclosed by the cursors between which it gives it. -/
def Holds {α : Type} (lines : Lines) (view : α → List Location) (p : Parser α) : Prop :=
  ∀ c a c', p.Gives c a c' → Encloses (Located lines) c (view a) c'

lemma Holds.bind {α β : Type} {p : Parser β} {f : β → Parser α} {view : α → List Location}
    (hp : p.Stays) (hf : ∀ b, Holds lines view (f b)) : Holds lines view (p >>= f) := by
  intro c a c' h
  obtain ⟨b, c₁, hb, hmore⟩ := gives_bind.mp h
  exact .behind ((hp c).next hb) (hf b c₁ a c' hmore)

/-! ### Headers and definitions -/

lemma length_lt_of_setting {word text : String} (h : Spelling.Setting word text c c') :
    c'.rest.length < c.rest.length := by
  have := h.suffix.length_le
  rw [List.length_cons] at this
  omega

lemma moves_profileHeader {header : ProfileHeader} (h : (profileHeader lines).Gives c header c') :
    c.Moves c' := by
  refine ⟨(stays_profileHeader c).next h, ?_⟩
  obtain ⟨hname, -, gap, hversion, -⟩ := gives_profileHeader.mp h
  exact ((length_lt_of_setting hversion).trans_le gap.length_le).trans (length_lt_of_setting hname)

lemma moves_mapHeader {header : MapHeader} (h : (mapHeader lines).Gives c header c') :
    c.Moves c' := by
  refine ⟨(stays_mapHeader c).next h, ?_⟩
  obtain ⟨⟨hprofile, -, gap, hprovider⟩, hvariant⟩ := spelled_mapHeader h
  have hlength := ((length_lt_of_setting hprovider).trans_le gap.length_le).trans
    (length_lt_of_setting hprofile)
  cases hvariant with
  | nothing => exact hlength
  | variant gap here => exact ((length_lt_of_setting here).trans_le gap.length_le).trans hlength

lemma located_profileHeader {header : ProfileHeader}
    (h : (profileHeader lines).Gives c header c') : Located lines header.location c c' := by
  obtain ⟨-, -, -, -, -⟩ := gives_profileHeader.mp h
  rfl

lemma located_mapHeader {header : MapHeader} (h : (mapHeader lines).Gives c header c') :
    Located lines header.location c c' := by
  obtain ⟨-, -⟩ := spelled_mapHeader h
  rfl

/-- All three kinds of definitions stop where their parsers do. -/
lemma located_profileDefinition {d : ProfileDefinition}
    (h : (profileDefinition lines).Gives c d c') : Located lines d.location c c' := by
  refine located_of_marks ProfileDefinition.location (fun start => ?_) h
  refine .bind fun title => .orElse ?_ (.orElse ?_ ?_)
  · exact .bind fun _ => .bind fun _ => .bind fun _ => .bind fun _ => .bind fun _ => .bind fun _ =>
      marks_stop fun _ => rfl
  · exact .bind fun _ => .bind fun _ => .bind fun _ => .bind fun _ => marks_stop fun _ => rfl
  · exact .bind fun _ => .bind fun _ => .bind fun _ => .bind fun _ => marks_stop fun _ => rfl

lemma located_mapItem {word : String} {item : MapItem} {d : MapDefinition}
    (h : (mapItem lines word item).Gives c d c') : Located lines d.location c c' := by
  refine located_of_marks MapDefinition.location (fun start => ?_) h
  exact .bind fun _ => .bind fun _ => .bind fun _ => .bind fun _ => .bind fun _ => .bind fun _ =>
    marks_stop fun _ => rfl

lemma holds_mapItem (word : String) (item : MapItem) :
    Holds lines (fun d => d.calls.map CallSite.location) (mapItem lines word item) := by
  have htitle : Stays (do let _ ← docString; gap) := stays_docString.bind fun _ => stays_gap
  refine .bind stays_offset fun start => .bind htitle.optional fun _ => ?_
  refine .bind (stays_keyword word) fun _ => .bind stays_gap fun _ => ?_
  refine .bind stays_identifier fun name => .bind stays_gap fun _ => ?_
  intro c d c' h
  obtain ⟨calls, c₁, hbody, h⟩ := gives_bind.mp h
  obtain ⟨_, _, hstop, h⟩ := gives_bind.mp h
  obtain ⟨rfl, rfl⟩ := gives_offset.mp hstop
  obtain ⟨rfl, rfl⟩ := gives_pure.mp h
  exact encloses_bodyWithin hbody

lemma mapDefinition_cases {d : MapDefinition} (h : (mapDefinition lines).Gives c d c') :
    Located lines d.location c c' ∧
      Encloses (Located lines) c (d.calls.map CallSite.location) c' := by
  obtain h | ⟨-, h⟩ := gives_orElse.mp h
  · exact ⟨located_mapItem h, holds_mapItem _ _ c d c' h⟩
  · exact ⟨located_mapItem h, holds_mapItem _ _ c d c' h⟩

/-- Definitions are parts of a row, with the gaps behind them as room. -/
lemma row_definitions {α β : Type} {p : Parser α} {f : α → β} {as : List α}
    {piece : β → Cursor → Cursor → Prop} (hstays : p.Stays) (hconsumes : p.Consumes)
    (hp : ∀ a c c', p.Gives c a c' → piece (f a) c c')
    (h : Repeats (do let d ← p; gap; pure d) c as c') : Row piece c (as.map f) c' := by
  induction h with
  | stop => exact .done (.refl _)
  | round hround _ ih =>
    obtain ⟨c₁, hgives, hgap, -⟩ := gives_followed.mp hround
    exact .part (.refl _) (hp _ _ _ hgives) (moves_of_gives hstays hconsumes hgives)
      (ih.behind hgap.reaches)

end Grammar

/-! ### Trees -/

/-- A definition, by its location and the locations of the calls in it. -/
structure Part where
  location : Location
  calls : List Location

namespace Tree

def parts : Tree → List Part
  | .profile p => p.definitions.map fun d => ⟨d.location, []⟩
  | .map m => m.definitions.map fun d => ⟨d.location, d.calls.map CallSite.location⟩

/-- The header and the definitions, in order. -/
def sections (t : Tree) : List Location := t.headerLocation :: t.parts.map Part.location

def locations (t : Tree) : List Location :=
  t.location :: (t.sections ++ t.parts.flatMap Part.calls)

/-- The locations of a tree of the text `cs` lie in each other as its parts do. -/
structure Nests (cs : List Char) (t : Tree) : Prop where
  start_eq : t.location.span.start = t.headerLocation.span.start
  stop_eq : t.location.span.stop = byteLength cs
  nonempty : ∀ l ∈ t.sections, l.span.start < l.span.stop
  increasing : t.sections.Pairwise fun a b => a.span.stop ≤ b.span.start
  inside : ∀ l ∈ t.sections,
    t.location.span.start ≤ l.span.start ∧ l.span.stop ≤ t.location.span.stop
  calls_inside : ∀ part ∈ t.parts, ∀ call ∈ part.calls,
    part.location.span.start < call.span.start ∧ call.span.start < call.span.stop ∧
      call.span.stop < part.location.span.stop
  calls_increasing : ∀ part ∈ t.parts, part.calls.Pairwise fun a b => a.span.stop ≤ b.span.start
  places : ∀ l ∈ t.locations,
    IsPlace cs l.span.start l.start ∧ IsPlace cs l.span.stop l.stop

end Tree

section Trees

open Cursor

variable {cs : List Char} {lines : Lines} {part : Part} {l call : Location} {t : Tree}
  {c c₁ c' : Cursor}

/-- A definition with its calls inside it. -/
structure Part.Stands (lines : Lines) (part : Part) (c c' : Cursor) : Prop where
  located : Located lines part.location c c'
  calls : part.calls = [] ∨ Encloses (Located lines) c part.calls c'

lemma Part.Stands.exists_of_mem (h : part.Stands lines c c') (hcall : call ∈ part.calls) :
    ∃ c₁ c₂, c.Moves c₁ ∧ Located lines call c₁ c₂ ∧ c₁.Moves c₂ ∧ c₂.Moves c' := by
  obtain hnil | ⟨c₁, c₂, hbefore, hrow, hafter⟩ := h.calls
  · rw [hnil] at hcall
    cases hcall
  · obtain ⟨c₃, c₄, hroom, hlocated, hmoves, hmore⟩ := hrow.exists_of_mem hcall
    have hin : c.Moves c₃ :=
      ⟨hbefore.reaches.trans hroom, hroom.length_le.trans_lt hbefore.length_lt⟩
    exact ⟨c₃, c₄, hin, hlocated, hmoves, hmore.trans_moves hafter⟩

lemma Part.Stands.increasing (h : part.Stands lines c c') :
    part.calls.Pairwise fun a b => a.span.stop ≤ b.span.start := by
  obtain hnil | ⟨c₁, c₂, -, hrow, -⟩ := h.calls
  · rw [hnil]
    exact .nil
  · exact hrow.increasing

lemma Located.isPlace (h : Located (Lines.ofText cs) l c c') (hbefore : Reaches ⟨cs, 0⟩ c)
    (hmoves : c.Reaches c') :
    IsPlace cs l.span.start l.start ∧ IsPlace cs l.span.stop l.stop := by
  have hboundary : ∀ {c : Cursor}, Reaches ⟨cs, 0⟩ c → IsBoundary cs c.offset := fun hreaches => by
    obtain ⟨before, hcut, hoffset⟩ := hreaches.cut
    exact ⟨before, ⟨_, hcut.symm⟩, hoffset.symm⟩
  rw [h]
  exact ⟨isPlace_position (hboundary hbefore), isPlace_position (hboundary (hbefore.trans hmoves))⟩

/-- The header of a tree and its definitions stand in the text one behind the other. -/
structure Tree.Stands (cs : List Char) (t : Tree) (c c₁ c' : Cursor) : Prop where
  begins : Reaches ⟨cs, 0⟩ c
  header : Located (Lines.ofText cs) t.headerLocation c c₁
  moves : c.Moves c₁
  parts : Row (Part.Stands (Lines.ofText cs)) c₁ t.parts c'
  ended : c'.rest = []
  whole : Located (Lines.ofText cs) t.location c c'

lemma stands_of_readTree {kind : Kind} {text : String} (h : readTree kind text = .ok t) :
    ∃ c c₁ c', t.Stands text.toList c c₁ c' := by
  obtain ⟨-, c', hdocument⟩ := readTree_eq_ok.mp h
  cases kind with
  | profile =>
    obtain ⟨p, hprofile, rfl⟩ := Parser.gives_map.mp hdocument
    obtain ⟨c₁, c₂, c₃, header, definitions, hgap₁, hheader, hgap₂, hrepeats, hend, rfl⟩ :=
      Grammar.framed_of_gives (fun h ds l => (⟨h, ds, l⟩ : Profile))
        Grammar.consumes_profileDefinition hprofile
    have hstands : ∀ d c c', (Grammar.profileDefinition _).Gives c d c' →
        Part.Stands (Lines.ofText text.toList) ⟨d.location, []⟩ c c' := fun d c c' hd =>
      ⟨Grammar.located_profileDefinition hd, .inl rfl⟩
    have hparts := Grammar.row_definitions Grammar.stays_profileDefinition
      Grammar.consumes_profileDefinition hstands hrepeats
    exact ⟨c₁, c₂, c', hgap₁.reaches, Grammar.located_profileHeader hheader,
      Grammar.moves_profileHeader hheader, hparts.behind hgap₂.reaches, hend, rfl⟩
  | map =>
    obtain ⟨m, hmap, rfl⟩ := Parser.gives_map.mp hdocument
    obtain ⟨c₁, c₂, c₃, header, definitions, hgap₁, hheader, hgap₂, hrepeats, hend, rfl⟩ :=
      Grammar.framed_of_gives (fun h ds l => (⟨h, ds, l⟩ : MapDocument))
        Grammar.consumes_mapDefinition hmap
    have hstands : ∀ d c c', (Grammar.mapDefinition _).Gives c d c' →
        Part.Stands (Lines.ofText text.toList) ⟨d.location, d.calls.map CallSite.location⟩ c c' :=
      fun d c c' hd => ⟨(Grammar.mapDefinition_cases hd).1, .inr (Grammar.mapDefinition_cases hd).2⟩
    have hparts := Grammar.row_definitions Grammar.stays_mapDefinition
      Grammar.consumes_mapDefinition hstands hrepeats
    exact ⟨c₁, c₂, c', hgap₁.reaches, Grammar.located_mapHeader hheader,
      Grammar.moves_mapHeader hheader, hparts.behind hgap₂.reaches, hend, rfl⟩

namespace Tree.Stands

lemma row (h : t.Stands cs c c₁ c') : Row (Located (Lines.ofText cs)) c t.sections c' :=
  .part (.refl c) h.header h.moves (h.parts.map fun _ _ _ hpart => hpart.located)

lemma offset_eq (h : t.Stands cs c c₁ c') : c'.offset = byteLength cs := by
  obtain ⟨before, hcut, hoffset⟩ := (h.begins.trans h.row.reaches).cut
  rw [hoffset, hcut, h.ended, List.append_nil]

/-- Where the definition of a call stands, and in it the call. -/
lemma exists_call (h : t.Stands cs c c₁ c') (hpart : part ∈ t.parts) (hcall : call ∈ part.calls) :
    ∃ d d₁ d₂ d', Reaches ⟨cs, 0⟩ d ∧ Located (Lines.ofText cs) part.location d d' ∧
      Located (Lines.ofText cs) call d₁ d₂ ∧ d.Moves d₁ ∧ d₁.Moves d₂ ∧ d₂.Moves d' := by
  obtain ⟨d, d', hbefore, hstands, -⟩ := h.parts.exists_of_mem hpart
  obtain ⟨d₁, d₂, hin, hlocated, hmoves, hout⟩ := hstands.exists_of_mem hcall
  exact ⟨d, d₁, d₂, d', h.begins.trans (h.moves.reaches.trans hbefore), hstands.located, hlocated,
    hin, hmoves, hout⟩

/-- **Extent of the parts of a tree.** -/
lemma nests (h : t.Stands cs c c₁ c') : t.Nests cs where
  start_eq := by
    rw [h.whole, h.header]
    rfl
  stop_eq := by
    rw [h.whole]
    exact h.offset_eq
  nonempty l hl := by
    obtain ⟨d, d', -, hl, hmoves, -⟩ := h.row.exists_of_mem hl
    rw [hl]
    exact hmoves.offset_lt
  increasing := h.row.increasing
  inside l hl := by
    obtain ⟨d, d', hbefore, hl, -, hafter⟩ := h.row.exists_of_mem hl
    rw [hl, h.whole]
    exact ⟨hbefore.offset_le, hafter.offset_le⟩
  calls_inside part hpart call hcall := by
    obtain ⟨d, d₁, d₂, d', -, hpart, hcall, hin, hmoves, hout⟩ := h.exists_call hpart hcall
    rw [hcall, hpart]
    exact ⟨hin.offset_lt, hmoves.offset_lt, hout.offset_lt⟩
  calls_increasing part hpart := by
    obtain ⟨d, d', -, hstands, -⟩ := h.parts.exists_of_mem hpart
    exact hstands.increasing
  places l hl := by
    rcases List.mem_cons.mp hl with rfl | hl
    · exact h.whole.isPlace h.begins h.row.reaches
    rcases List.mem_append.mp hl with hl | hl
    · obtain ⟨d, d', hbefore, hl, hmoves, -⟩ := h.row.exists_of_mem hl
      exact hl.isPlace (h.begins.trans hbefore) hmoves.reaches
    · obtain ⟨part, hpart, hl⟩ := List.mem_flatMap.mp hl
      obtain ⟨d, d₁, d₂, d', hbefore, -, hl, hin, hmoves, -⟩ := h.exists_call hpart hl
      exact hl.isPlace (hbefore.trans hin.reaches) hmoves.reaches

end Tree.Stands

end Trees

end Contracts
