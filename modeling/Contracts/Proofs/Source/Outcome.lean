import Mathlib.Tactic.Common
import Contracts.Source.Parser
import Contracts.Proofs.Source.Spelling

/-!
What a parser comes to, whatever it expected on the way.

From one cursor a parser either gives a value and another cursor, or fails, and never both. Each way
of putting parsers together is described by what its parts give. A repetition ends where its parser
fails, as long as every round takes up a character.
-/

namespace Contracts

namespace Cursor

variable {c c₁ c₂ : Cursor} {s t : List Char}

@[ext] lemma ext {a b : Cursor} (hrest : a.rest = b.rest) (hoffset : a.offset = b.offset) :
    a = b := by
  cases a
  cases b
  cases hrest
  cases hoffset
  rfl

lemma Spells.trans (h : c.Spells s c₁) (h' : c₁.Spells t c₂) : c.Spells (s ++ t) c₂ := by
  refine ⟨by rw [h.1, h'.1, List.append_assoc], ?_⟩
  rw [h'.2, h.2, byteLength_append, Nat.add_assoc]

lemma spells_iff : c.Spells s c' ↔ s <+: c.rest ∧ c' = c.after s := by
  constructor
  · rintro ⟨hrest, hoffset⟩
    refine ⟨⟨c'.rest, hrest.symm⟩, ext ?_ hoffset⟩
    simp [after, hrest]
  · rintro ⟨⟨rest, hrest⟩, rfl⟩
    exact ⟨by simp [after, ← hrest], rfl⟩

lemma spells_append : c.Spells (s ++ t) c₂ ↔ ∃ c₁, c.Spells s c₁ ∧ c₁.Spells t c₂ := by
  constructor
  · rintro ⟨hrest, hoffset⟩
    refine ⟨⟨t ++ c₂.rest, c.offset + byteLength s⟩, ⟨?_, rfl⟩, rfl, ?_⟩
    · rw [hrest, List.append_assoc]
    · rw [hoffset, byteLength_append, Nat.add_assoc]
  · exact fun ⟨_, first, second⟩ => first.trans second

lemma Spells.unique (h : c.Spells s c₁) (h' : c.Spells s c₂) : c₁ = c₂ :=
  (spells_iff.mp h).2.trans (spells_iff.mp h').2.symm

lemma Spells.length (h : c.Spells s c₁) : c.rest.length = s.length + c₁.rest.length := by
  rw [h.1, List.length_append]

lemma Spells.length_lt (h : c.Spells s c₁) (hs : s ≠ []) : c₁.rest.length < c.rest.length := by
  have := List.length_pos_iff.mpr hs
  rw [h.length]
  omega

/-- The character ahead is the first one that is spelled. -/
lemma Spells.head {ch : Char} (h : c.Spells (ch :: s) c₁) : c.rest.head? = some ch := by
  rw [h.1]
  rfl

end Cursor

namespace Parser

variable {α β : Type} {p q : Parser α} {f : α → Parser β} {c c₁ c₂ : Cursor} {a : α} {b : β}

/-- The parser takes up the text between two cursors, for which it has a value. -/
def Gives (p : Parser α) (c : Cursor) (a : α) (c' : Cursor) : Prop := (p c).result = some (a, c')

def Fails (p : Parser α) (c : Cursor) : Prop := (p c).result = none

lemma Gives.not_fails (h : p.Gives c a c₁) : ¬ p.Fails c := by
  intro hf
  cases h.symm.trans hf

lemma fails_or_gives (p : Parser α) (c : Cursor) : p.Fails c ∨ ∃ a c', p.Gives c a c' := by
  unfold Fails Gives
  rcases (p c).result with _ | ⟨a, c'⟩
  · exact .inl rfl
  · exact .inr ⟨a, c', rfl⟩

lemma fails_iff : p.Fails c ↔ ∀ a c', ¬ p.Gives c a c' := by
  constructor
  · exact fun hf a c' h => h.not_fails hf
  · intro h
    exact (fails_or_gives p c).resolve_right fun ⟨a, c', hg⟩ => h a c' hg

lemma Gives.unique {a' : α} (h : p.Gives c a c₁) (h' : p.Gives c a' c₂) : a = a' ∧ c₁ = c₂ := by
  cases h.symm.trans h'
  exact ⟨rfl, rfl⟩

@[simp] lemma gives_pure {a' : α} : (pure a : Parser α).Gives c a' c₁ ↔ a = a' ∧ c = c₁ := by
  show some (a, c) = some (a', c₁) ↔ _
  simp

@[simp] lemma gives_offset {n : Nat} : offset.Gives c n c₁ ↔ c.offset = n ∧ c = c₁ := by
  show some (c.offset, c) = some (n, c₁) ↔ _
  simp

@[simp] lemma not_gives_missing {what : Expected} : ¬ (missing what : Parser α).Gives c a c₁ :=
  fun h => nomatch h

lemma gives_bind : (p >>= f).Gives c b c₂ ↔ ∃ a c₁, p.Gives c a c₁ ∧ (f a).Gives c₁ b c₂ := by
  have hbind : ((p >>= f) c).result = (p c).result.bind fun r => (f r.1 r.2).result := by
    dsimp only [bind]
    rcases p c with ⟨frontier, _ | ⟨a, next⟩⟩ <;> rfl
  unfold Gives
  rw [hbind]
  simp [Option.bind_eq_some_iff]

lemma gives_orElse : (p <|> q).Gives c a c₁ ↔ p.Gives c a c₁ ∨ p.Fails c ∧ q.Gives c a c₁ := by
  have horElse : ((p <|> q) c).result = (p c).result.or (q c).result := by
    show (p.orElse q c).result = _
    unfold orElse
    rcases p c with ⟨frontier, _ | r⟩ <;> rfl
  unfold Gives Fails
  rw [horElse]
  rcases (p c).result <;> simp

lemma fails_orElse : (p <|> q).Fails c ↔ p.Fails c ∧ q.Fails c := by
  simp only [fails_iff, gives_orElse]
  constructor
  · intro h
    have hp : ∀ a c', ¬ p.Gives c a c' := fun a c' hg => h a c' (.inl hg)
    exact ⟨hp, fun a c' hg => h a c' (.inr ⟨hp, hg⟩)⟩
  · rintro ⟨hp, hq⟩ a c' (hg | ⟨-, hg⟩)
    · exact hp a c' hg
    · exact hq a c' hg

lemma fails_bind (h : ∀ a c₁, p.Gives c a c₁ → (f a).Fails c₁) : (p >>= f).Fails c := by
  rw [fails_iff]
  intro b c₂ hg
  obtain ⟨a, c₁, hp, hf⟩ := gives_bind.mp hg
  exact hf.not_fails (h a c₁ hp)

lemma fails_bind_left (h : p.Fails c) : (p >>= f).Fails c :=
  fails_bind fun _ _ hg => absurd h hg.not_fails

lemma gives_map {g : α → β} :
    (p >>= fun a => pure (g a)).Gives c b c₁ ↔ ∃ a, p.Gives c a c₁ ∧ g a = b := by
  rw [gives_bind]
  constructor
  · rintro ⟨a, c₂, hp, hg⟩
    obtain ⟨hb, rfl⟩ := gives_pure.mp hg
    exact ⟨a, hp, hb⟩
  · rintro ⟨a, hp, hb⟩
    exact ⟨a, c₁, hp, gives_pure.mpr ⟨hb, rfl⟩⟩

lemma fails_map {g : α → β} : (p >>= fun a => pure (g a)).Fails c ↔ p.Fails c := by
  simp only [fails_iff, gives_map]
  constructor
  · exact fun h a c' hg => h (g a) c' ⟨a, hg, rfl⟩
  · rintro h b c' ⟨a, hg, -⟩
    exact h a c' hg

lemma gives_optional {o : Option α} : p.optional.Gives c o c₁ ↔
    (∃ a, o = some a ∧ p.Gives c a c₁) ∨ o = none ∧ c = c₁ ∧ p.Fails c := by
  have hoptional : (p.optional c).result =
      some ((p c).result.elim (none, c) fun r => (some r.1, r.2)) := by
    unfold Parser.optional
    rcases p c with ⟨frontier, _ | ⟨a, next⟩⟩ <;> rfl
  unfold Gives Fails
  rw [hoptional]
  rcases (p c).result with _ | ⟨a, next⟩
  · simp [eq_comm]
  · cases o <;> simp

@[simp] lemma gives_literal {word : String} {u : Unit} :
    (literal word).Gives c u c₁ ↔ c.Spells word.toList c₁ := by
  unfold Gives literal
  rw [Cursor.spells_iff, ← List.isPrefixOf_iff_prefix]
  split
  · next h => simp [h, eq_comm]
  · next h => simp [h]

@[simp] lemma gives_notAhead {ahead : List Char → Bool} {u : Unit} :
    (notAhead ahead).Gives c u c₁ ↔ ahead c.rest = false ∧ c = c₁ := by
  unfold Gives notAhead
  split
  · next h => simp [h]
  · next h => simp [h]

lemma gives_token {what : Expected} {read : List Char → Option (List Char)} {t : List Char} :
    (token what read).Gives c t c₁ ↔ read c.rest = some t ∧ c₁ = c.after t := by
  unfold Gives token
  split
  · next t' h =>
    rw [h]
    simp only [Option.some.injEq, Prod.mk.injEq]
    constructor
    · rintro ⟨rfl, rfl⟩; exact ⟨rfl, rfl⟩
    · rintro ⟨rfl, rfl⟩; exact ⟨rfl, rfl⟩
  · next h => simp [h]

lemma gives_checked {what : Expected} {g : α → Option β} :
    (checked what g p).Gives c b c₁ ↔ ∃ a, p.Gives c a c₁ ∧ g a = some b := by
  unfold checked
  rw [gives_bind]
  constructor
  · rintro ⟨a, c₂, hp, hg⟩
    split at hg
    · next b' hb =>
      obtain ⟨rfl, rfl⟩ := gives_pure.mp hg
      exact ⟨a, hp, hb⟩
    · exact absurd hg not_gives_missing
  · rintro ⟨a, hp, hb⟩
    refine ⟨a, c₁, hp, ?_⟩
    rw [hb]
    exact gives_pure.mpr ⟨rfl, rfl⟩

/-! ### Repetition -/

/-- Values that a parser gives one after the other, until it fails. -/
inductive Repeats (p : Parser α) : Cursor → List α → Cursor → Prop
  | stop {c : Cursor} (h : p.Fails c) : Repeats p c [] c
  | round {c c₁ c' : Cursor} {a : α} {as : List α} (h : p.Gives c a c₁)
      (more : Repeats p c₁ as c') : Repeats p c (a :: as) c'

/-- Whatever the parser gives, it has taken up a character. -/
def Consumes (p : Parser α) : Prop := ∀ c a c', p.Gives c a c' → c'.rest.length < c.rest.length

/-- Whatever the parser gives, it has not gone back. -/
def Advances (p : Parser α) : Prop := ∀ c a c', p.Gives c a c' → c'.rest.length ≤ c.rest.length

lemma Consumes.advances (h : p.Consumes) : p.Advances := fun c a c' hg => (h c a c' hg).le

lemma Consumes.fails_of_nil (h : p.Consumes) (hc : c.rest = []) : p.Fails c :=
  fails_iff.mpr fun a c' hg => by simpa [hc] using h c a c' hg

lemma advances_pure (a : α) : (pure a : Parser α).Advances := by
  intro c a' c' h
  obtain ⟨-, rfl⟩ := gives_pure.mp h
  exact Nat.le_refl _

lemma advances_offset : offset.Advances := by
  intro c a' c' h
  obtain ⟨-, rfl⟩ := gives_offset.mp h
  exact Nat.le_refl _

lemma Advances.bind (hp : p.Advances) (hf : ∀ a, (f a).Advances) : (p >>= f).Advances := by
  intro c b c' h
  obtain ⟨a, c₁, hp', hf'⟩ := gives_bind.mp h
  exact (hf a _ _ _ hf').trans (hp _ _ _ hp')

lemma Consumes.bind (hp : p.Consumes) (hf : ∀ a, (f a).Advances) : (p >>= f).Consumes := by
  intro c b c' h
  obtain ⟨a, c₁, hp', hf'⟩ := gives_bind.mp h
  exact (hf a _ _ _ hf').trans_lt (hp _ _ _ hp')

lemma Advances.bind_consumes (hp : p.Advances) (hf : ∀ a, (f a).Consumes) :
    (p >>= f).Consumes := by
  intro c b c' h
  obtain ⟨a, c₁, hp', hf'⟩ := gives_bind.mp h
  exact (hf a _ _ _ hf').trans_le (hp _ _ _ hp')

lemma Advances.optional (hp : p.Advances) : p.optional.Advances := by
  intro c o c' h
  obtain ⟨a, rfl, hp'⟩ | ⟨rfl, rfl, -⟩ := gives_optional.mp h
  · exact hp _ _ _ hp'
  · exact Nat.le_refl _

lemma Consumes.orElse (hp : p.Consumes) (hq : q.Consumes) : (p <|> q).Consumes := by
  intro c a c' h
  obtain h | ⟨-, h⟩ := gives_orElse.mp h
  · exact hp _ _ _ h
  · exact hq _ _ _ h

/-- A round is the last one if the parser fails there. -/
lemma gives_atMost_succ {n : Nat} {as : List α} : (atMost p (n + 1)).Gives c as c₁ ↔
    (as = [] ∧ p.Fails c ∧ c = c₁) ∨
      ∃ a c₂ bs, as = a :: bs ∧ p.Gives c a c₂ ∧ (atMost p n).Gives c₂ bs c₁ := by
  rcases hr : p c with ⟨frontier, _ | ⟨a, next⟩⟩
  · have hfails : p.Fails c := by simp [Fails, hr]
    have hresult : (atMost p (n + 1) c).result = some ([], c) := by simp [atMost, hr]
    unfold Gives
    rw [hresult]
    constructor
    · intro h
      cases h
      exact .inl ⟨rfl, hfails, rfl⟩
    · rintro (⟨rfl, -, rfl⟩ | ⟨a, c₂, bs, -, hg, -⟩)
      · rfl
      · exact absurd hfails (Gives.not_fails hg)
  · have hgives : p.Gives c a next := by simp [Gives, hr]
    have hresult : (atMost p (n + 1) c).result =
        (atMost p n next).result.map fun r => (a :: r.1, r.2) := by
      simp only [atMost, hr]
      rcases atMost p n next with ⟨further, _ | ⟨as, last⟩⟩ <;> rfl
    constructor
    · intro h
      unfold Gives at h
      rw [hresult, Option.map_eq_some_iff] at h
      obtain ⟨⟨bs, last⟩, hrest, heq⟩ := h
      cases heq
      exact .inr ⟨a, next, bs, rfl, hgives, hrest⟩
    · rintro (⟨-, hfails, -⟩ | ⟨b, c₂, bs, rfl, hg, hmore⟩)
      · exact absurd hfails hgives.not_fails
      · obtain ⟨rfl, rfl⟩ := hg.unique hgives
        unfold Gives
        rw [hresult, show (atMost p n c₂).result = _ from hmore]
        rfl

lemma gives_atMost (hp : p.Consumes) {n : Nat} {as : List α} (hn : c.rest.length ≤ n) :
    (atMost p n).Gives c as c₁ ↔ Repeats p c as c₁ := by
  induction n generalizing c as with
  | zero =>
    have hfails : p.Fails c := fails_iff.mpr fun a c' hg => by
      have := hp c a c' hg
      omega
    constructor
    · intro h
      cases h
      exact .stop hfails
    · rintro (⟨-⟩ | ⟨hg, -⟩)
      · rfl
      · exact absurd hfails hg.not_fails
  | succ n ih =>
    have hround : ∀ a next, p.Gives c a next → next.rest.length ≤ n := fun a next hg => by
      have := hp c a next hg
      omega
    rw [gives_atMost_succ]
    constructor
    · rintro (⟨rfl, hfails, rfl⟩ | ⟨a, next, bs, rfl, hg, hmore⟩)
      · exact .stop hfails
      · exact .round hg ((ih (hround a next hg)).mp hmore)
    · rintro (⟨hfails⟩ | ⟨hg, hmore⟩)
      · exact .inl ⟨rfl, hfails, rfl⟩
      · exact .inr ⟨_, _, _, rfl, hg, (ih (hround _ _ hg)).mpr hmore⟩

lemma Repeats.length_le {as : List α} (hp : p.Consumes) (h : Repeats p c as c₁) :
    c₁.rest.length ≤ c.rest.length := by
  induction h with
  | stop => exact Nat.le_refl _
  | round hg _ ih => exact ih.trans (hp _ _ _ hg).le

lemma gives_many (hp : p.Consumes) {as : List α} :
    p.many.Gives c as c₁ ↔ Repeats p c as c₁ := gives_atMost hp (Nat.le_refl _)

end Parser

end Contracts
