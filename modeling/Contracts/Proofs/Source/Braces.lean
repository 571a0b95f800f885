import Mathlib.Data.List.Infix
import Contracts.Proofs.Source.Faithful

/-!
Braces among the tokens of the pre-scan.

The pre-scan knows nothing of nesting: a brace is a single character to it, unless it stands inside
a string or a comment. Counting these characters is enough to tell where a body ends. Some tokens
are enclosed if no closing brace among them comes before its opening one and none is left open, and
the text that they make up is balanced exactly then.
-/

namespace Contracts

open Spelling

/-! ### Counting braces -/

/-- Every closing brace among some tokens closes one that they have opened, and they leave none
open. -/
structure Enclosed (ts : List Token) : Prop where
  opened : ∀ us, us <+: ts → us.count (.character '}') ≤ us.count (.character '{')
  closed : ts.count (.character '}') = ts.count (.character '{')

instance (ts : List Token) : Decidable (Enclosed ts) :=
  decidable_of_iff ((∀ us ∈ ts.inits, us.count (.character '}') ≤ us.count (.character '{')) ∧
    ts.count (.character '}') = ts.count (.character '{'))
    ⟨fun ⟨h, h'⟩ => ⟨fun us hus => h us (List.mem_inits us ts |>.mpr hus), h'⟩,
      fun ⟨h, h'⟩ => ⟨fun us hus => h us (List.mem_inits us ts |>.mp hus), h'⟩⟩

namespace Enclosed

variable {t : Token} {ts us inside more : List Token}

lemma nil : Enclosed [] := ⟨fun us hus => by simp [List.prefix_nil.mp hus], rfl⟩

lemma cons_iff (hopen : t ≠ .character '{') (hclose : t ≠ .character '}') :
    Enclosed (t :: ts) ↔ Enclosed ts := by
  have hcount : ∀ us : List Token, (t :: us).count (.character '{') = us.count (.character '{') ∧
      (t :: us).count (.character '}') = us.count (.character '}') := fun us =>
    ⟨List.count_cons_of_ne hopen, List.count_cons_of_ne hclose⟩
  constructor
  · rintro ⟨opened, closed⟩
    rw [(hcount ts).1, (hcount ts).2] at closed
    refine ⟨fun us hus => ?_, closed⟩
    have hprefix := opened (t :: us) (List.cons_prefix_cons.mpr ⟨rfl, hus⟩)
    rwa [(hcount us).1, (hcount us).2] at hprefix
  · rintro ⟨opened, closed⟩
    refine ⟨fun us hus => ?_, by rw [(hcount ts).1, (hcount ts).2, closed]⟩
    rcases List.prefix_cons_iff.mp hus with rfl | ⟨us, rfl, hmore⟩
    · exact Nat.le_refl 0
    · rw [(hcount us).1, (hcount us).2]
      exact opened us hmore

/-- Behind an enclosed block the rest is as enclosed as the whole. -/
lemma block_iff (hinside : Enclosed inside) :
    Enclosed (.character '{' :: (inside ++ .character '}' :: more)) ↔ Enclosed more := by
  have hcount : ∀ us : List Token,
      (Token.character '{' :: (inside ++ .character '}' :: us)).count (.character '{') =
        inside.count (.character '{') + us.count (.character '{') + 1 ∧
      (Token.character '{' :: (inside ++ .character '}' :: us)).count (.character '}') =
        inside.count (.character '{') + us.count (.character '}') + 1 := fun us => by
    simp [hinside.closed, Nat.add_assoc]
  constructor
  · rintro ⟨opened, closed⟩
    rw [(hcount more).1, (hcount more).2] at closed
    refine ⟨fun us hus => ?_, by omega⟩
    have hprefix := opened (.character '{' :: (inside ++ .character '}' :: us))
      (List.cons_prefix_cons.mpr ⟨rfl, (List.prefix_append_right_inj inside).mpr
        (List.cons_prefix_cons.mpr ⟨rfl, hus⟩)⟩)
    rw [(hcount us).1, (hcount us).2] at hprefix
    omega
  · rintro ⟨opened, closed⟩
    refine ⟨fun us hus => ?_, by rw [(hcount more).1, (hcount more).2, closed]⟩
    rcases List.prefix_cons_iff.mp hus with rfl | ⟨us, rfl, hmore⟩
    · exact Nat.le_refl 0
    rcases List.prefix_or_prefix_of_prefix hmore (List.prefix_append inside _) with h | ⟨us, rfl⟩
    · have hprefix := hinside.opened us h
      simp only [List.count_cons_self, List.count_cons_of_ne, ne_eq, Token.character.injEq,
        Char.reduceEq, not_false_eq_true]
      omega
    rcases List.prefix_cons_iff.mp ((List.prefix_append_right_inj inside).mp hmore) with
      rfl | ⟨us, rfl, hbehind⟩
    · simp [hinside.closed]
    · have hprefix := opened us hbehind
      rw [(hcount us).1, (hcount us).2]
      omega

end Enclosed

/-- Where closing braces outnumber the opening ones, the first one to do so ends what is enclosed
before it. -/
lemma exists_closing {ts : List Token}
    (h : ∃ us, us <+: ts ∧ us.count (.character '{') < us.count (.character '}')) :
    ∃ inside behind, ts = inside ++ .character '}' :: behind ∧ Enclosed inside := by
  induction ts using List.reverseRecOn with
  | nil =>
    obtain ⟨us, hus, hcount⟩ := h
    simp [List.prefix_nil.mp hus] at hcount
  | append_singleton ts t ih =>
    by_cases hearlier : ∃ us, us <+: ts ∧ us.count (.character '{') < us.count (.character '}')
    · obtain ⟨inside, behind, rfl, hinside⟩ := ih hearlier
      exact ⟨inside, behind ++ [t], by simp, hinside⟩
    · have opened : ∀ us, us <+: ts → us.count (.character '}') ≤ us.count (.character '{') :=
        fun us hus => not_lt.mp fun hcount => hearlier ⟨us, hus, hcount⟩
      obtain ⟨us, hus, hcount⟩ := h
      obtain rfl : us = ts ++ [t] :=
        (List.prefix_concat_iff.mp hus).resolve_right fun h => hearlier ⟨us, h, hcount⟩
      -- no prefix but the whole closes more than it opens, so the last token is the brace
      have hwhole := opened ts (List.prefix_refl ts)
      rw [List.count_append, List.count_append] at hcount
      obtain rfl : t = .character '}' := by
        by_contra hne
        have hlast : [t].count (.character '}') = 0 :=
          List.count_eq_zero.mpr fun hmem => hne (List.mem_singleton.mp hmem).symm
        omega
      have hlast : [Token.character '}'].count (.character '}') = 1 ∧
          [Token.character '}'].count (.character '{') = 0 := by decide
      exact ⟨ts, [], rfl, opened, by omega⟩

/-- Induction on enclosed tokens: a block counts as one piece, with all that is nested in it. -/
@[elab_as_elim]
lemma Enclosed.induction {motive : List Token → Prop} {ts : List Token} (h : Enclosed ts)
    (nil : motive [])
    (token : ∀ t ts, t ≠ .character '{' → t ≠ .character '}' → motive ts → motive (t :: ts))
    (block : ∀ inside more, motive inside → motive more →
      motive (.character '{' :: (inside ++ .character '}' :: more))) : motive ts := by
  induction hn : ts.length using Nat.strong_induction_on generalizing ts with
  | _ n ih =>
    subst hn
    cases ts with
    | nil => exact nil
    | cons t ts =>
      have hclose : t ≠ .character '}' := by
        rintro rfl
        have hfirst := h.opened [.character '}'] (List.cons_prefix_cons.mpr ⟨rfl, List.nil_prefix⟩)
        simp at hfirst
      by_cases hopen : t = .character '{'
      · subst hopen
        have hcount := h.closed
        simp only [List.count_cons_self, List.count_cons_of_ne, ne_eq, Token.character.injEq,
          Char.reduceEq, not_false_eq_true] at hcount
        obtain ⟨inside, behind, rfl, hinside⟩ :=
          exists_closing ⟨ts, List.prefix_refl ts, by omega⟩
        refine block inside behind (ih _ ?_ hinside rfl) (ih _ ?_ (hinside.block_iff.mp h) rfl)
        all_goals simp
        all_goals omega
      · exact token t ts hopen hclose (ih _ (by simp) ((Enclosed.cons_iff hopen hclose).mp h) rfl)

/-! ### Token by token -/

namespace Cursor

variable {c c₁ c' : Cursor} {t u : Token} {ts us : List Token}

/-- The pre-scan takes the text between two cursors for some tokens, one after the other. -/
inductive ReadsAll : Cursor → List Token → Cursor → Prop
  | nil (c : Cursor) : ReadsAll c [] c
  | cons {c c₁ c' : Cursor} {t : Token} {ts : List Token} (first : c.Reads t c₁)
      (more : ReadsAll c₁ ts c') : ReadsAll c (t :: ts) c'

lemma Reads.unique (h : c.Reads t c₁) (h' : c.Reads u c') : t = u ∧ c₁ = c' := by
  obtain ⟨ch, cs, hrest, hread, -⟩ := h.exists_rest
  obtain rfl : t = u := Except.ok.inj (hread.symm.trans (h'.read ch cs hrest))
  exact ⟨rfl, h.here.unique h'.here⟩

namespace ReadsAll

lemma spells (h : c.ReadsAll ts c') : c.Spells (ts.flatMap Token.text) c' := by
  induction h with
  | nil => exact ⟨rfl, rfl⟩
  | cons first _ ih => exact first.here.trans ih

lemma scans (h : c.ReadsAll ts c') (hc : c.Closed) : c.Scans ts c' := by
  induction h with
  | nil => exact .refl hc
  | cons first _ ih => exact (first.scans hc).trans (ih (first.closed hc))

lemma append_iff : c.ReadsAll (ts ++ us) c' ↔ ∃ c₁, c.ReadsAll ts c₁ ∧ c₁.ReadsAll us c' := by
  constructor
  · intro h
    induction ts generalizing c with
    | nil => exact ⟨c, .nil c, h⟩
    | cons t ts ih =>
      cases h with
      | cons first more =>
        obtain ⟨c₁, hts, hus⟩ := ih more
        exact ⟨c₁, .cons first hts, hus⟩
  · rintro ⟨c₁, hts, hus⟩
    induction hts with
    | nil => exact hus
    | cons first _ ih => exact .cons first (ih hus)

end ReadsAll

/-- In a closed text the pre-scan comes to the end of any of its first tokens. -/
lemma Closed.exists_readsAll (hc : c.Closed) (htokens : tokens c.rest = ts ++ us) :
    ∃ c', c.ReadsAll ts c' ∧ c'.Closed ∧ tokens c'.rest = us := by
  induction ts generalizing c with
  | nil => exact ⟨c, .nil c, hc, htokens⟩
  | cons t ts ih =>
    have hne : c.rest ≠ [] := fun h => by simp [tokens_of_nil h] at htokens
    obtain ⟨u, c₁, first⟩ := hc.exists_reads hne
    rw [first.tokens_eq] at htokens
    obtain ⟨rfl, hmore⟩ := List.cons.inj htokens
    obtain ⟨c', more, hrest⟩ := ih (first.closed hc) hmore
    exact ⟨c', .cons first more, hrest⟩

end Cursor

/-! ### Balanced texts -/

namespace Spelling

variable {c c' : Cursor}

lemma reads_opening (here : c.Spells ['{'] c') : c.Reads (.character '{') c' :=
  Cursor.reads_character here (by decide) (here.plain (by decide))

lemma reads_closing (here : c.Spells ['}'] c') : c.Reads (.character '}') c' :=
  Cursor.reads_character here (by decide) (here.plain (by decide))

lemma Balanced.exists_readsAll (h : Balanced c c') (hc : c.Closed) :
    ∃ ts, c.ReadsAll ts c' ∧ Enclosed ts := by
  induction h with
  | nothing c => exact ⟨[], .nil c, .nil⟩
  | block opening inside closing more ihInside ihMore =>
    have hopened := (reads_opening opening).closed hc
    obtain ⟨ts, hts, henclosed⟩ := ihInside hopened
    obtain ⟨us, hus, hmore⟩ := ihMore ((reads_closing closing).closed (inside.closed hopened))
    refine ⟨.character '{' :: (ts ++ .character '}' :: us), .cons (reads_opening opening) ?_,
      henclosed.block_iff.mpr hmore⟩
    exact Cursor.ReadsAll.append_iff.mpr ⟨_, hts, .cons (reads_closing closing) hus⟩
  | docString here more ih =>
    have hreads := Cursor.reads_docString here
    obtain ⟨ts, hts, henclosed⟩ := ih (hreads.closed hc)
    exact ⟨_, .cons hreads hts, (Enclosed.cons_iff (by simp) (by simp)).mpr henclosed⟩
  | literal here more ih =>
    have hreads := hc.reads_literal here
    obtain ⟨ts, hts, henclosed⟩ := ih (hreads.closed hc)
    exact ⟨_, .cons hreads hts, (Enclosed.cons_iff (by simp) (by simp)).mpr henclosed⟩
  | comment here more ih =>
    obtain ⟨s, hs, hspells⟩ := comment_iff.mp here
    have hreads := Cursor.reads_comment hspells hs
    obtain ⟨ts, hts, henclosed⟩ := ih (hreads.closed hc)
    exact ⟨_, .cons hreads hts, (Enclosed.cons_iff (by simp) (by simp)).mpr henclosed⟩
  | character here hch plain more ih =>
    obtain ⟨hopen, hclose, hquote⟩ := hch
    have hreads := Cursor.reads_character here hquote plain
    obtain ⟨ts, hts, henclosed⟩ := ih (hreads.closed hc)
    refine ⟨_, .cons hreads hts, (Enclosed.cons_iff ?_ ?_).mpr henclosed⟩
    · simpa using hopen
    · simpa using hclose

end Spelling

lemma Enclosed.balanced {ts : List Token} (h : Enclosed ts) :
    ∀ c c' : Cursor, c.Closed → c.ReadsAll ts c' → Balanced c c' := by
  refine h.induction ?nothing ?token ?block
  case nothing =>
    rintro c _ - ⟨⟩
    exact .nothing c
  case token =>
    rintro t ts hopen hclose ih c c' hc (_ | ⟨first, more⟩)
    have hbehind := ih _ _ (first.closed hc) more
    obtain ⟨here, -⟩ | ⟨text, here, -⟩ | ⟨text, here, -⟩ | ⟨ch, rfl, hquote, plain, here⟩ :=
      first.spelled
    · exact .comment here hbehind
    · exact .docString here hbehind
    · exact .literal here hbehind
    · exact .character here ⟨by simpa using hopen, by simpa using hclose, hquote⟩ plain hbehind
  case block =>
    rintro inside more ihInside ihMore c c' hc (_ | ⟨first, hts⟩)
    obtain ⟨c₂, hinside, _ | ⟨last, hmore⟩⟩ := Cursor.ReadsAll.append_iff.mp hts
    have hopened := first.closed hc
    have hclosing := (hinside.scans hopened).closed
    exact .block first.here (ihInside _ _ hopened hinside) last.here
      (ihMore _ _ (last.closed hclosing) hmore)

/-- A body reaches to the brace that closes what is enclosed behind its first one. -/
lemma Spelling.body_iff_enclosed {c c' : Cursor} (hc : c.Closed) : Body c c' ↔
    ∃ ts, c.ReadsAll (.character '{' :: (ts ++ [.character '}'])) c' ∧ Enclosed ts := by
  constructor
  · rintro ⟨opening, inside, closing⟩
    have hfirst := reads_opening opening
    obtain ⟨ts, hts, henclosed⟩ := inside.exists_readsAll (hfirst.closed hc)
    have hlast := Cursor.ReadsAll.cons (reads_closing closing) (.nil c')
    exact ⟨ts, .cons hfirst (Cursor.ReadsAll.append_iff.mpr ⟨_, hts, hlast⟩), henclosed⟩
  · rintro ⟨ts, _ | ⟨first, more⟩, henclosed⟩
    obtain ⟨c₂, hts, _ | ⟨last, _ | _⟩⟩ := Cursor.ReadsAll.append_iff.mp more
    exact ⟨first.here, henclosed.balanced _ _ (first.closed hc) hts, last.here⟩

end Contracts
