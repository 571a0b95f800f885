import Contracts.Proofs.Source.Frontier

/-!
What the grammar can miss.

Whichever way parsers are put together, what is missed is missed by one of them. So what comes
behind the two lines of a header misses nothing but its own tokens, and the words of those lines are
not among them.
-/

namespace Contracts

lemma Frontier.mem_expected_join {a b : Frontier} {what : Expected}
    (h : what ∈ (a.join b).expected) : what ∈ a.expected ∨ what ∈ b.expected := by
  unfold join at h
  split at h
  · exact .inr h
  · split at h
    · exact .inl h
    · exact List.mem_append.mp h

namespace Parser

variable {α β : Type} {p q : Parser α} {f : α → Parser β} {tokens : List Expected}

/-- Whatever is ahead, the parser misses only some of the tokens. -/
def MissesOnly (tokens : List Expected) (p : Parser α) : Prop :=
  ∀ c, ∀ what ∈ (p c).frontier.expected, what ∈ tokens

/-! ### Putting parsers together -/

/-- A parser that never leaves a trace. -/
lemma missesOnly_of_clear (h : ∀ c, (p c).frontier = .clear) : p.MissesOnly tokens :=
  fun c what hwhat => by simp [h c, Frontier.clear] at hwhat

lemma missesOnly_pure (a : α) : (pure a : Parser α).MissesOnly tokens :=
  missesOnly_of_clear fun _ => rfl

lemma missesOnly_offset : offset.MissesOnly tokens := missesOnly_of_clear fun _ => rfl

lemma missesOnly_notAhead (ahead : List Char → Bool) : (notAhead ahead).MissesOnly tokens :=
  missesOnly_of_clear fun c => by
    unfold notAhead
    split <;> rfl

lemma missesOnly_missing {what : Expected} (h : what ∈ tokens) :
    (missing what : Parser α).MissesOnly tokens :=
  fun _ _ hwhat => List.mem_singleton.mp hwhat ▸ h

lemma missesOnly_token {what : Expected} {read : List Char → Option (List Char)}
    (h : what ∈ tokens) : (token what read).MissesOnly tokens := fun c other hother => by
  unfold token at hother
  split at hother
  · cases hother
  · exact List.mem_singleton.mp hother ▸ h

lemma missesOnly_literal {word : String} (h : .literal word ∈ tokens) :
    (literal word).MissesOnly tokens := fun c other hother => by
  unfold literal at hother
  split at hother
  · cases hother
  · exact List.mem_singleton.mp hother ▸ h

lemma MissesOnly.bind (hp : p.MissesOnly tokens) (hf : ∀ a, (f a).MissesOnly tokens) :
    (p >>= f).MissesOnly tokens := fun c what hwhat => by
  rcases fails_or_gives p c with hfails | ⟨a, c₁, hgives⟩
  · rw [frontier_bind_of_fails hfails] at hwhat
    exact hp c what hwhat
  · rw [frontier_bind_of_gives hgives] at hwhat
    exact (Frontier.mem_expected_join hwhat).elim (hp c what) (hf a c₁ what)

lemma MissesOnly.orElse (hp : p.MissesOnly tokens) (hq : q.MissesOnly tokens) :
    (p <|> q).MissesOnly tokens := fun c what hwhat => by
  rcases fails_or_gives p c with hfails | ⟨a, c₁, hgives⟩
  · rw [frontier_orElse_of_fails hfails] at hwhat
    exact (Frontier.mem_expected_join hwhat).elim (hp c what) (hq c what)
  · rw [frontier_orElse_of_gives hgives] at hwhat
    exact hp c what hwhat

lemma MissesOnly.optional (hp : p.MissesOnly tokens) : p.optional.MissesOnly tokens :=
  fun c what hwhat => by
    rw [frontier_optional] at hwhat
    exact hp c what hwhat

/-- What a repetition misses is missed by one of its rounds. -/
lemma MissesOnly.many (hp : p.MissesOnly tokens) : p.many.MissesOnly tokens := by
  have hmost : ∀ n, (p.atMost n).MissesOnly tokens := by
    intro n
    induction n with
    | zero => exact hp
    | succ n ih =>
      intro c what hwhat
      rcases fails_or_gives p c with hfails | ⟨a, c₁, hgives⟩
      · rw [frontier_atMost_of_fails hfails] at hwhat
        exact hp c what hwhat
      · rw [frontier_atMost_of_gives hgives] at hwhat
        exact (Frontier.mem_expected_join hwhat).elim (hp c what) (ih c₁ what)
  exact fun c => hmost c.rest.length c

end Parser

namespace Grammar

open Contracts.Parser

/-- All that can be missing behind the lines that a header has to have. -/
def laterTokens : List Expected :=
  [.literal "variant", .literal "=", .string, .literal "\"\"\"", .identifier, .literal "usecase",
    .literal "safe", .literal "unsafe", .literal "idempotent", .literal "model", .literal "field",
    .literal "map", .literal "operation", .literal "\x7b", .literal "\x7d", .literal "call",
    .literal "//", .anyCharacter]

variable {lines : Lines} {inner : Parser (List CallSite)}

lemma missesOnly_gap {tokens : List Expected} : gap.MissesOnly tokens :=
  missesOnly_of_clear fun _ => rfl

lemma missesOnly_identifier : identifier.MissesOnly laterTokens :=
  (missesOnly_token (by decide)).bind fun _ => missesOnly_pure _

lemma missesOnly_keyword {word : String} (h : .literal word ∈ laterTokens) :
    (keyword word).MissesOnly laterTokens :=
  (missesOnly_literal h).bind fun _ => missesOnly_notAhead _

lemma missesOnly_string : string.MissesOnly laterTokens :=
  (missesOnly_token (by decide)).bind fun _ => missesOnly_pure _

lemma missesOnly_docString : docString.MissesOnly laterTokens := by
  refine .orElse (fun c what hwhat => ?_) missesOnly_string
  unfold tripleQuoted at hwhat
  split at hwhat
  · cases hwhat
  · split at hwhat
    · have hboth : [.anyCharacter, .literal "\"\"\""] ⊆ laterTokens := by decide
      exact hboth hwhat
    · exact List.mem_singleton.mp hwhat ▸ by decide

lemma missesOnly_comment : comment.MissesOnly laterTokens := fun c what hwhat => by
  unfold comment at hwhat
  split at hwhat
  · dsimp only at hwhat
    split at hwhat
    · exact List.mem_singleton.mp hwhat ▸ by decide
    · cases hwhat
  · exact List.mem_singleton.mp hwhat ▸ by decide

lemma missesOnly_filler : filler.MissesOnly laterTokens := fun c what hwhat => by
  unfold filler at hwhat
  split at hwhat
  · exact List.mem_singleton.mp hwhat ▸ by decide
  · split at hwhat <;> cases hwhat

/-! ### Bodies -/

lemma missesOnly_bodyItem (hinner : inner.MissesOnly laterTokens) :
    (bodyItem lines inner).MissesOnly laterTokens := by
  have hcall : (callSite lines).MissesOnly laterTokens :=
    missesOnly_offset.bind fun _ => (missesOnly_keyword (by decide)).bind fun _ =>
      missesOnly_gap.bind fun _ => missesOnly_identifier.bind fun _ =>
        missesOnly_offset.bind fun _ => missesOnly_pure _
  refine .orElse (hcall.bind fun _ => missesOnly_pure _) (.orElse hinner ?_)
  refine .orElse (missesOnly_docString.bind fun _ => missesOnly_pure _) ?_
  refine .orElse (missesOnly_comment.bind fun _ => missesOnly_pure _) ?_
  exact .orElse (missesOnly_identifier.bind fun _ => missesOnly_pure _)
    (missesOnly_filler.bind fun _ => missesOnly_pure _)

lemma missesOnly_body : (body lines).MissesOnly laterTokens := by
  have hwithin : ∀ depth, (bodyWithin lines depth).MissesOnly laterTokens := by
    intro depth
    induction depth with
    | zero => exact missesOnly_missing (by decide)
    | succ depth ih =>
      exact (missesOnly_literal (by decide)).bind fun _ => (missesOnly_bodyItem ih).many.bind
        fun _ => (missesOnly_literal (by decide)).bind fun _ => missesOnly_pure _
  exact fun c => hwithin c.rest.length c

/-! ### Definitions -/

section Profiles

variable {start : Nat} {title : Option String}

lemma missesOnly_usecase : (usecase lines start title).MissesOnly laterTokens := by
  have hword : ∀ (word : String) (s : Safety), .literal word ∈ laterTokens →
      MissesOnly laterTokens (do keyword word; pure s) :=
    fun _ _ h => (missesOnly_keyword h).bind fun _ => missesOnly_pure _
  have hsafety : safety.MissesOnly laterTokens :=
    .orElse (hword _ _ (by decide)) (.orElse (hword _ _ (by decide)) (hword _ _ (by decide)))
  have hpromise : MissesOnly laterTokens (do let s ← safety; gap; pure s) :=
    hsafety.bind fun _ => missesOnly_gap.bind fun _ => missesOnly_pure _
  refine (missesOnly_keyword (by decide)).bind fun _ => missesOnly_gap.bind fun _ => ?_
  refine missesOnly_identifier.bind fun _ => missesOnly_gap.bind fun _ => ?_
  refine hpromise.optional.bind fun _ => missesOnly_body.bind fun _ => ?_
  exact missesOnly_offset.bind fun _ => missesOnly_pure _

lemma missesOnly_model : (model lines start title).MissesOnly laterTokens := by
  have hbody : MissesOnly laterTokens (do gap; body lines) :=
    missesOnly_gap.bind fun _ => missesOnly_body
  refine (missesOnly_keyword (by decide)).bind fun _ => missesOnly_gap.bind fun _ => ?_
  refine missesOnly_identifier.bind fun _ => hbody.optional.bind fun _ => ?_
  exact missesOnly_offset.bind fun _ => missesOnly_pure _

lemma missesOnly_field : (field lines start title).MissesOnly laterTokens := by
  have htype : (fieldType lines).MissesOnly laterTokens :=
    .orElse ((missesOnly_notAhead _).bind fun _ => missesOnly_identifier)
      (missesOnly_body.bind fun _ => missesOnly_pure _)
  have hbehind : MissesOnly laterTokens (do gap; fieldType lines) :=
    missesOnly_gap.bind fun _ => htype
  refine (missesOnly_keyword (by decide)).bind fun _ => missesOnly_gap.bind fun _ => ?_
  refine missesOnly_identifier.bind fun _ => hbehind.optional.bind fun _ => ?_
  exact missesOnly_offset.bind fun _ => missesOnly_pure _

lemma missesOnly_profileDefinition :
    (profileDefinition lines).MissesOnly laterTokens := by
  have htitle : MissesOnly laterTokens
      (do let s ← docString; gap; pure (firstLine? s.toList)) :=
    missesOnly_docString.bind fun _ => missesOnly_gap.bind fun _ => missesOnly_pure _
  exact missesOnly_offset.bind fun _ => htitle.optional.bind fun _ =>
    .orElse missesOnly_usecase (.orElse missesOnly_model missesOnly_field)

end Profiles

lemma missesOnly_mapDefinition : (mapDefinition lines).MissesOnly laterTokens := by
  have htitle : MissesOnly laterTokens (do let _ ← docString; gap) :=
    missesOnly_docString.bind fun _ => missesOnly_gap
  have hitem : ∀ (word : String) (item : MapItem), .literal word ∈ laterTokens →
      (mapItem lines word item).MissesOnly laterTokens := by
    intro word item hword
    refine missesOnly_offset.bind fun _ => htitle.optional.bind fun _ => ?_
    refine (missesOnly_keyword hword).bind fun _ => missesOnly_gap.bind fun _ => ?_
    refine missesOnly_identifier.bind fun _ => missesOnly_gap.bind fun _ => ?_
    refine missesOnly_body.bind fun _ => missesOnly_offset.bind fun _ => missesOnly_pure _
  exact .orElse (hitem _ _ (by decide)) (hitem _ _ (by decide))

/-- The definitions of a document, with what is around them. -/
lemma missesOnly_definitions {α γ : Type} {p : Parser α} (build : List α → Location → γ)
    (start : Nat) (hp : p.MissesOnly laterTokens) : MissesOnly laterTokens (do
      gap
      let definitions ← many (do let d ← p; gap; pure d)
      let stop ← offset
      ending
      pure (build definitions (lines.location start stop))) := by
  have hround : MissesOnly laterTokens (do let d ← p; gap; pure d) :=
    hp.bind fun _ => missesOnly_gap.bind fun _ => missesOnly_pure _
  refine missesOnly_gap.bind fun _ => hround.many.bind fun _ => missesOnly_offset.bind fun _ => ?_
  exact (missesOnly_notAhead _).bind fun _ => missesOnly_pure _

end Grammar

end Contracts
