import Contracts.Proofs.Source.Lexing

/-!
Where the grammar looks, and where it misses something.

A parser sees nothing but the text ahead of its cursor. What it takes up is a beginning of that
text, and what it misses, it misses between two characters of it. Parsers are put together so that
what comes second starts behind what came first, so the two facts are carried along together. A
frontier at which nothing was missed has the offset zero.
-/

namespace Contracts

namespace Frontier

lemma offset_join (a b : Frontier) : (a.join b).offset = max a.offset b.offset := by
  unfold join
  split
  · next h => exact (max_eq_right h.le).symm
  · split
    · next h => exact (max_eq_left h.le).symm
    · next hle hge => exact (max_eq_left (Nat.le_of_not_lt hle)).symm

@[simp] lemma clear_join (f : Frontier) : clear.join f = f := by
  unfold join clear
  split
  · rfl
  · next h =>
    have hoffset : f.offset = 0 := Nat.eq_zero_of_not_pos h
    simp [← hoffset]

@[simp] lemma join_clear (f : Frontier) : f.join clear = f := by
  unfold join clear
  split
  · next h => simp at h
  · split
    · rfl
    · simp

end Frontier

namespace Cursor

variable {c c₁ c₂ : Cursor} {f g : Frontier} {s : List Char}

/-- The text ahead of `c` goes on at `c'`. -/
def Reaches (c c' : Cursor) : Prop := ∃ s, c.Spells s c'

lemma Spells.reaches (h : c.Spells s c₁) : c.Reaches c₁ := ⟨s, h⟩

lemma Reaches.refl (c : Cursor) : c.Reaches c := ⟨[], rfl, rfl⟩

lemma Reaches.trans (h : c.Reaches c₁) (h' : c₁.Reaches c₂) : c.Reaches c₂ := by
  obtain ⟨s, hs⟩ := h
  obtain ⟨t, ht⟩ := h'
  exact ⟨s ++ t, hs.trans ht⟩

/-- A cursor that is reached from the start of a text cuts the text in two. -/
lemma Reaches.cut (h : Reaches ⟨s, 0⟩ c) :
    ∃ before, s = before ++ c.rest ∧ c.offset = byteLength before := by
  obtain ⟨before, hrest, hoffset⟩ := h
  exact ⟨before, hrest, by rw [hoffset, Nat.zero_add]⟩

/-- Nothing was missed, or something at a place of the text ahead. -/
def Bounds (c : Cursor) (f : Frontier) : Prop :=
  f.offset = 0 ∨ ∃ c', c.Reaches c' ∧ c'.offset = f.offset

lemma bounds_clear : c.Bounds .clear := .inl rfl

lemma Reaches.bounds_offset (h : c.Reaches c₁) (what : List Expected) :
    c.Bounds ⟨c₁.offset, what⟩ := .inr ⟨c₁, h, rfl⟩

lemma Reaches.bounds (h : c.Reaches c₁) (hf : c₁.Bounds f) : c.Bounds f :=
  hf.imp_right fun ⟨c', hc', hoffset⟩ => ⟨c', h.trans hc', hoffset⟩

lemma Bounds.join (hf : c.Bounds f) (hg : c.Bounds g) : c.Bounds (f.join g) := by
  unfold Bounds
  rw [Frontier.offset_join]
  rcases Nat.le_total f.offset g.offset with h | h
  · rwa [max_eq_right h]
  · rwa [max_eq_left h]

lemma Bounds.cut (h : Bounds ⟨s, 0⟩ f) :
    ∃ before after, s = before ++ after ∧ f.offset = byteLength before := by
  obtain h | ⟨c, hreaches, hoffset⟩ := h
  · exact ⟨[], s, rfl, h⟩
  · obtain ⟨before, hcut, hlength⟩ := hreaches.cut
    exact ⟨before, c.rest, hcut, hoffset ▸ hlength⟩

end Cursor

namespace Parser

open Cursor

variable {α β : Type} {p q : Parser α} {f : α → Parser β} {c c₁ : Cursor} {a : α}

/-- From a cursor, the parser goes on at a place of the text ahead, and misses something only at
one. -/
structure StaysAt (p : Parser α) (c : Cursor) : Prop where
  next : ∀ {a c'}, p.Gives c a c' → c.Reaches c'
  frontier : c.Bounds (p c).frontier

def Stays (p : Parser α) : Prop := ∀ c, p.StaysAt c

/-! ### Putting parsers together -/

section

variable (h : p.Gives c a c₁) (hfails : p.Fails c)

include h in
lemma frontier_bind_of_gives : ((p >>= f) c).frontier = (p c).frontier.join (f a c₁).frontier := by
  unfold Gives at h
  dsimp only [bind]
  rcases hp : p c with ⟨frontier, result⟩
  rw [hp] at h
  cases h
  rfl

include hfails in
lemma frontier_bind_of_fails : ((p >>= f) c).frontier = (p c).frontier := by
  unfold Fails at hfails
  dsimp only [bind]
  rcases hp : p c with ⟨frontier, result⟩
  rw [hp] at hfails
  cases hfails
  rfl

include h in
lemma frontier_orElse_of_gives : ((p <|> q) c).frontier = (p c).frontier := by
  unfold Gives at h
  show (p.orElse q c).frontier = _
  unfold orElse
  rcases hp : p c with ⟨frontier, result⟩
  rw [hp] at h
  cases h
  rfl

include hfails in
lemma frontier_orElse_of_fails :
    ((p <|> q) c).frontier = (p c).frontier.join (q c).frontier := by
  unfold Fails at hfails
  show (p.orElse q c).frontier = _
  unfold orElse
  rcases hp : p c with ⟨frontier, result⟩
  rw [hp] at hfails
  cases hfails
  rfl

include h in
lemma frontier_atMost_of_gives {n : Nat} :
    (p.atMost (n + 1) c).frontier = (p c).frontier.join (p.atMost n c₁).frontier := by
  unfold Gives at h
  conv_lhs => unfold Parser.atMost
  rcases hp : p c with ⟨frontier, result⟩
  rw [hp] at h
  cases h
  dsimp only
  rcases p.atMost n c₁ with ⟨further, _ | ⟨as, last⟩⟩ <;> rfl

include hfails in
lemma frontier_atMost_of_fails {n : Nat} :
    (p.atMost (n + 1) c).frontier = (p c).frontier := by
  unfold Fails at hfails
  unfold Parser.atMost
  rcases hp : p c with ⟨frontier, result⟩
  rw [hp] at hfails
  cases hfails
  rfl

end

lemma frontier_optional : (p.optional c).frontier = (p c).frontier := by
  unfold Parser.optional
  rcases p c with ⟨frontier, _ | ⟨a, next⟩⟩ <;> rfl

lemma stays_pure (a : α) : (pure a : Parser α).Stays := fun c =>
  ⟨fun h => (gives_pure.mp h).2 ▸ .refl c, bounds_clear⟩

lemma stays_offset : offset.Stays := fun c =>
  ⟨fun h => (gives_offset.mp h).2 ▸ .refl c, bounds_clear⟩

lemma stays_missing (what : Expected) : (missing what : Parser α).Stays := fun c =>
  ⟨fun h => absurd h not_gives_missing, (Reaches.refl c).bounds_offset _⟩

lemma Stays.bind (hp : p.Stays) (hf : ∀ a, (f a).Stays) : (p >>= f).Stays := fun c => by
  refine ⟨fun h => ?_, ?_⟩
  · obtain ⟨a, c₁, hgives, hmore⟩ := gives_bind.mp h
    exact ((hp c).next hgives).trans ((hf a c₁).next hmore)
  · rcases fails_or_gives p c with hfails | ⟨a, c₁, hgives⟩
    · rw [frontier_bind_of_fails hfails]
      exact (hp c).frontier
    · rw [frontier_bind_of_gives hgives]
      exact (hp c).frontier.join (((hp c).next hgives).bounds (hf a c₁).frontier)

lemma Stays.orElse (hp : p.Stays) (hq : q.Stays) : (p <|> q).Stays := fun c => by
  refine ⟨fun h => ?_, ?_⟩
  · obtain h | ⟨-, h⟩ := gives_orElse.mp h
    · exact (hp c).next h
    · exact (hq c).next h
  · rcases fails_or_gives p c with hfails | ⟨a, c₁, hgives⟩
    · rw [frontier_orElse_of_fails hfails]
      exact (hp c).frontier.join (hq c).frontier
    · rw [frontier_orElse_of_gives hgives]
      exact (hp c).frontier

lemma Stays.optional (hp : p.Stays) : p.optional.Stays := fun c => by
  refine ⟨fun h => ?_, ?_⟩
  · obtain ⟨a, -, h⟩ | ⟨-, rfl, -⟩ := gives_optional.mp h
    · exact (hp c).next h
    · exact .refl c
  · rw [frontier_optional]
    exact (hp c).frontier

/-- Each round starts where the one before has stopped. -/
lemma Stays.atMost (hp : p.Stays) (n : Nat) : (p.atMost n).Stays := by
  induction n with
  | zero => exact fun c => ⟨fun h => by cases h; exact .refl c, (hp c).frontier⟩
  | succ n ih =>
    refine fun c => ⟨fun h => ?_, ?_⟩
    · obtain ⟨-, -, rfl⟩ | ⟨a, c₁, as, -, hgives, hmore⟩ := gives_atMost_succ.mp h
      · exact .refl c
      · exact ((hp c).next hgives).trans ((ih c₁).next hmore)
    · rcases fails_or_gives p c with hfails | ⟨a, c₁, hgives⟩
      · rw [frontier_atMost_of_fails hfails]
        exact (hp c).frontier
      · rw [frontier_atMost_of_gives hgives]
        exact (hp c).frontier.join (((hp c).next hgives).bounds (ih c₁).frontier)

lemma Stays.many (hp : p.Stays) : p.many.Stays := fun c =>
  have hmost := hp.atMost c.rest.length c
  ⟨hmost.next, hmost.frontier⟩

lemma stays_notAhead (ahead : List Char → Bool) : (notAhead ahead).Stays := fun c => by
  refine ⟨fun h => (gives_notAhead.mp h).2 ▸ .refl c, ?_⟩
  unfold notAhead
  split <;> exact bounds_clear

/-- What a reader of tokens finds is a beginning of the text. -/
lemma stays_token {what : Expected} {read : List Char → Option (List Char)}
    (hread : ∀ cs t, read cs = some t → t <+: cs) : (token what read).Stays := fun c => by
  refine ⟨fun h => ?_, ?_⟩
  · obtain ⟨ht, rfl⟩ := gives_token.mp h
    exact (spells_after (hread _ _ ht)).reaches
  · unfold token
    split
    · exact bounds_clear
    · exact (Reaches.refl c).bounds_offset _

lemma stays_literal (word : String) : (literal word).Stays := fun c => by
  refine ⟨fun h => (gives_literal.mp h).reaches, ?_⟩
  unfold literal
  split
  · exact bounds_clear
  · exact (Reaches.refl c).bounds_offset _

lemma Stays.checked {what : Expected} {g : α → Option β} (hp : p.Stays) :
    (p.checked what g).Stays := hp.bind fun a => by
  cases g a with
  | some b => exact stays_pure b
  | none => exact stays_missing what

end Parser

/-! ### The parts of the grammar -/

namespace Spelling

variable {c c' : Cursor}

lemma Comment.reaches (h : Comment c c') : c.Reaches c' := by
  obtain ⟨-, here, -⟩ := h
  exact here.reaches

lemma Gap.reaches (h : Gap c c') : c.Reaches c' := by
  induction h with
  | nothing => exact .refl _
  | blank _ here _ ih => exact here.reaches.trans ih
  | comment here _ ih => exact here.reaches.trans ih

end Spelling

namespace Grammar

open Contracts.Parser Cursor

variable {lines : Lines} {inner : Parser (List CallSite)}

lemma stays_gap : gap.Stays := fun _ => ⟨fun h => (gives_gap.mp h).1.reaches, bounds_clear⟩

lemma stays_identifier : identifier.Stays :=
  (stays_token fun _ _ h => by
    obtain ⟨rest, hrest, -⟩ := Token.identifier?_eq_some.mp h
    exact ⟨rest, hrest.symm⟩).bind fun _ => stays_pure _

lemma stays_keyword (word : String) : (keyword word).Stays :=
  (stays_literal word).bind fun _ => stays_notAhead _

lemma stays_string : string.Stays :=
  (stays_token fun _ _ h => by
    obtain ⟨rest, hrest, -⟩ := Token.string?_eq_some.mp h
    exact ⟨rest, hrest.symm⟩).bind fun _ => stays_pure _

/-- Quotes that are not closed are missed at the end of the text. -/
lemma stays_tripleQuoted : tripleQuoted.Stays := fun c => by
  refine ⟨fun h => (gives_tripleQuoted.mp h).here.reaches, ?_⟩
  have hend : c.Reaches (c.after c.rest) := (spells_after List.prefix_rfl).reaches
  unfold tripleQuoted
  split
  · exact bounds_clear
  · split
    · exact hend.bounds_offset _
    · exact (Reaches.refl c).bounds_offset _

lemma stays_docString : docString.Stays := stays_tripleQuoted.orElse stays_string

lemma stays_comment : comment.Stays := fun c => by
  refine ⟨fun h => (gives_comment.mp h).reaches, ?_⟩
  unfold comment
  split
  · next t ht =>
    obtain ⟨rest, hrest, -⟩ := Token.comment?_eq_some.mp ht
    have hafter : c.Reaches (c.after t) := (spells_after ⟨rest, hrest.symm⟩).reaches
    dsimp only
    split
    · exact hafter.bounds_offset _
    · exact bounds_clear
  · exact (Reaches.refl c).bounds_offset _

lemma stays_filler : filler.Stays := fun c => by
  refine ⟨fun h => ?_, ?_⟩
  · obtain ⟨ch, here, -⟩ := gives_filler.mp h
    exact here.reaches
  · unfold filler
    split
    · exact (Reaches.refl c).bounds_offset _
    · split <;> exact bounds_clear

lemma stays_ending : ending.Stays := stays_notAhead _

/-! ### Bodies -/

lemma stays_callSite : (callSite lines).Stays :=
  stays_offset.bind fun _ => (stays_keyword "call").bind fun _ => stays_gap.bind fun _ =>
    stays_identifier.bind fun _ => stays_offset.bind fun _ => stays_pure _

lemma stays_bodyItem (hinner : inner.Stays) : (bodyItem lines inner).Stays := by
  refine .orElse (stays_callSite.bind fun _ => stays_pure _) (.orElse hinner ?_)
  refine .orElse (stays_docString.bind fun _ => stays_pure _) ?_
  refine .orElse (stays_comment.bind fun _ => stays_pure _) ?_
  exact .orElse (stays_identifier.bind fun _ => stays_pure _)
    (stays_filler.bind fun _ => stays_pure _)

lemma stays_bodyWithin (depth : Nat) : (bodyWithin lines depth).Stays := by
  induction depth with
  | zero => exact stays_missing _
  | succ depth ih =>
    exact (stays_literal _).bind fun _ => (stays_bodyItem ih).many.bind fun _ =>
      (stays_literal _).bind fun _ => stays_pure _

lemma stays_body : (body lines).Stays := fun c =>
  have hwithin := stays_bodyWithin c.rest.length c
  ⟨hwithin.next, hwithin.frontier⟩

/-! ### Profiles -/

/-- A line of a header. -/
lemma stays_assigned {α : Type} {p : Parser α} (word : String) (hp : p.Stays) :
    Stays (do literal word; gap; literal "="; gap; p) :=
  (stays_literal word).bind fun _ => stays_gap.bind fun _ =>
    (stays_literal "=").bind fun _ => stays_gap.bind fun _ => hp

lemma stays_profileHeader : (profileHeader lines).Stays := by
  refine stays_offset.bind fun _ => stays_assigned "name" ?_
  refine stays_string.checked.bind fun _ => stays_gap.bind fun _ => stays_assigned "version" ?_
  exact stays_string.checked.bind fun _ => stays_offset.bind fun _ => stays_pure _

lemma stays_safety : safety.Stays :=
  .orElse ((stays_keyword _).bind fun _ => stays_pure _)
    (.orElse ((stays_keyword _).bind fun _ => stays_pure _)
      ((stays_keyword _).bind fun _ => stays_pure _))

section Definitions

variable {start : Nat} {title : Option String}

lemma stays_usecase : (usecase lines start title).Stays := by
  have hsafety : Stays (do let s ← safety; gap; pure s) :=
    stays_safety.bind fun _ => stays_gap.bind fun _ => stays_pure _
  refine (stays_keyword _).bind fun _ => stays_gap.bind fun _ => ?_
  refine stays_identifier.bind fun _ => stays_gap.bind fun _ => ?_
  refine hsafety.optional.bind fun _ => stays_body.bind fun _ => ?_
  exact stays_offset.bind fun _ => stays_pure _

lemma stays_model : (model lines start title).Stays := by
  have hbody : Stays (do gap; body lines) := stays_gap.bind fun _ => stays_body
  refine (stays_keyword _).bind fun _ => stays_gap.bind fun _ => ?_
  refine stays_identifier.bind fun _ => hbody.optional.bind fun _ => ?_
  exact stays_offset.bind fun _ => stays_pure _

lemma stays_fieldType : (fieldType lines).Stays :=
  .orElse ((stays_notAhead _).bind fun _ => stays_identifier)
    (stays_body.bind fun _ => stays_pure _)

lemma stays_field : (field lines start title).Stays := by
  have htype : Stays (do gap; fieldType lines) := stays_gap.bind fun _ => stays_fieldType
  refine (stays_keyword _).bind fun _ => stays_gap.bind fun _ => ?_
  refine stays_identifier.bind fun _ => htype.optional.bind fun _ => ?_
  exact stays_offset.bind fun _ => stays_pure _

end Definitions

lemma stays_profileDefinition : (profileDefinition lines).Stays := by
  have htitle : Stays (do let s ← docString; gap; pure (firstLine? s.toList)) :=
    stays_docString.bind fun _ => stays_gap.bind fun _ => stays_pure _
  exact stays_offset.bind fun _ => htitle.optional.bind fun _ =>
    .orElse stays_usecase (.orElse stays_model stays_field)

/-- Definitions with a gap behind each of them, up to the end of the text. -/
lemma stays_followed {α : Type} {p : Parser α} (hp : p.Stays) :
    Stays (do let d ← p; gap; pure d) :=
  hp.bind fun _ => stays_gap.bind fun _ => stays_pure _

lemma stays_profile : (profile lines).Stays := by
  refine stays_gap.bind fun _ => stays_offset.bind fun _ => stays_profileHeader.bind fun _ => ?_
  refine stays_gap.bind fun _ => (stays_followed stays_profileDefinition).many.bind fun _ => ?_
  exact stays_offset.bind fun _ => stays_ending.bind fun _ => stays_pure _

/-! ### Maps -/

lemma stays_mapHeader : (mapHeader lines).Stays := by
  have hvariant : Stays (do gap; literal "variant"; gap; literal "="; gap; string) :=
    stays_gap.bind fun _ => stays_assigned "variant" stays_string
  refine stays_offset.bind fun _ => stays_assigned "profile" ?_
  refine stays_string.checked.bind fun _ => stays_gap.bind fun _ => stays_assigned "provider" ?_
  refine stays_string.bind fun _ => hvariant.optional.bind fun _ => ?_
  exact stays_offset.bind fun _ => stays_pure _

lemma stays_mapItem (word : String) (item : MapItem) : (mapItem lines word item).Stays := by
  have htitle : Stays (do let _ ← docString; gap) := stays_docString.bind fun _ => stays_gap
  refine stays_offset.bind fun _ => htitle.optional.bind fun _ => ?_
  refine (stays_keyword word).bind fun _ => stays_gap.bind fun _ => ?_
  refine stays_identifier.bind fun _ => stays_gap.bind fun _ => stays_body.bind fun _ => ?_
  exact stays_offset.bind fun _ => stays_pure _

lemma stays_mapDefinition : (mapDefinition lines).Stays :=
  .orElse (stays_mapItem _ _) (stays_mapItem _ _)

lemma stays_map : (map lines).Stays := by
  refine stays_gap.bind fun _ => stays_offset.bind fun _ => stays_mapHeader.bind fun _ => ?_
  refine stays_gap.bind fun _ => (stays_followed stays_mapDefinition).many.bind fun _ => ?_
  exact stays_offset.bind fun _ => stays_ending.bind fun _ => stays_pure _

lemma stays_document (kind : Kind) : (document lines kind).Stays := by
  cases kind with
  | profile => exact stays_profile.bind fun _ => stays_pure _
  | map => exact stays_map.bind fun _ => stays_pure _

end Grammar

end Contracts
