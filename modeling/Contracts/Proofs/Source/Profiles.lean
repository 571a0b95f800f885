import Contracts.Proofs.Source.Documents

/-!
The parser of profiles against the way profiles are spelled.

Each rule of the grammar has its parser. Whatever a parser takes up in a closed text is spelled as
the rule says, and leaves the text closed. Whatever is spelled is read, where the text behind it
goes on as behind that rule it can only go on: the parsers choose the first alternative and the
longest part, and no other choice leads to the end of the text.
-/

namespace Contracts

open Spelling

namespace Grammar

open Contracts.Parser

variable {lines : Lines} {c c₁ c₂ c' : Cursor}

lemma ne_empty_of_documentName {text : String} {name : DocumentName}
    (h : DocumentName.ofText? text = some name) : text ≠ "" := by
  rintro rfl
  exact absurd h (by decide +revert)

lemma ne_empty_of_version {text : String} {version : Version}
    (h : Version.ofText? text = some version) : text ≠ "" := by
  rintro rfl
  exact absurd h (by decide +revert)

/-! ### The header -/

lemma gives_profileHeader {header : Contracts.ProfileHeader} :
    (profileHeader lines).Gives c header c' ↔ Spelling.ProfileHeader lines header c c' := by
  constructor
  · intro h
    obtain ⟨_, _, hstart, h⟩ := gives_bind.mp h
    obtain ⟨rfl, rfl⟩ := gives_offset.mp hstart
    obtain ⟨c₁, hname, -, h⟩ := gives_assigned.mp h
    obtain ⟨name, c₂, hchecked, h⟩ := gives_bind.mp h
    obtain ⟨nameText, hnameText, name_eq⟩ := gives_checked.mp hchecked
    obtain ⟨_, c₃, hgap, h⟩ := gives_bind.mp h
    obtain ⟨c₄, hversion, -, h⟩ := gives_assigned.mp h
    obtain ⟨version, c₅, hchecked, h⟩ := gives_bind.mp h
    obtain ⟨versionText, hversionText, version_eq⟩ := gives_checked.mp hchecked
    obtain ⟨_, _, hstop, h⟩ := gives_bind.mp h
    obtain ⟨rfl, rfl⟩ := gives_offset.mp hstop
    obtain ⟨rfl, rfl⟩ := gives_pure.mp h
    exact ⟨⟨hname, gives_string.mp hnameText⟩, name_eq, (gives_gap.mp hgap).1,
      ⟨hversion, gives_string.mp hversionText⟩, version_eq⟩
  · rintro ⟨⟨hname, nameQuoted⟩, name_eq, gap, ⟨hversion, versionQuoted⟩, version_eq⟩
    refine gives_bind.mpr ⟨_, _, gives_offset.mpr ⟨rfl, rfl⟩, ?_⟩
    refine gives_assigned.mpr ⟨_, hname, nameQuoted.gapEnd, ?_⟩
    refine gives_bind.mpr ⟨_, _, gives_checked.mpr ⟨_, gives_string.mpr nameQuoted, name_eq⟩, ?_⟩
    refine gives_bind.mpr ⟨(), _, gives_gap.mpr ⟨gap, hversion.gapEnd rfl (by decide)⟩, ?_⟩
    refine gives_assigned.mpr ⟨_, hversion, versionQuoted.gapEnd, ?_⟩
    refine gives_bind.mpr
      ⟨_, _, gives_checked.mpr ⟨_, gives_string.mpr versionQuoted, version_eq⟩, ?_⟩
    exact gives_bind.mpr ⟨_, _, gives_offset.mpr ⟨rfl, rfl⟩, gives_pure.mpr ⟨rfl, rfl⟩⟩

lemma gapEnd_of_profileHeader {header : Contracts.ProfileHeader}
    (h : Spelling.ProfileHeader lines header c c') : GapEnd c := by
  obtain ⟨⟨hname, -⟩, -⟩ := h
  exact hname.gapEnd rfl (by decide)

lemma closed_of_profileHeader {header : Contracts.ProfileHeader} (hc : c.Closed)
    (h : Spelling.ProfileHeader lines header c c') : c'.Closed := by
  obtain ⟨hname, name_eq, gap, hversion, version_eq⟩ := h
  have hname' := hname.closed (by decide) (fun h => absurd h (ne_empty_of_documentName name_eq)) hc
  exact hversion.closed (by decide) (fun h => absurd h (ne_empty_of_version version_eq))
    (gap.closed hname')

/-! ### Definitions -/

section Definitions

variable {item : Contracts.ProfileItem} {name : String} {title : Option String} {start : Nat}
  {d : Contracts.ProfileDefinition}

lemma gives_safety {s : Safety} : safety.Gives c s c' ↔ Word s.text c c' := by
  have hother : ∀ {word : String} {x y : Char} {g : Unit → Safety}, word.toList.head? = some x →
      c.rest.head? = some y → y ≠ x → (keyword word >>= fun u => pure (g u)).Fails c :=
    fun hword hhead hne => fails_map.mpr (fails_keyword hword hhead hne)
  simp only [safety, gives_orElse, gives_map, gives_keyword]
  constructor
  · rintro (⟨-, h, rfl⟩ | ⟨-, ⟨-, h, rfl⟩ | ⟨-, -, h, rfl⟩⟩) <;> exact h
  · intro h
    cases s with
    | safe => exact .inl ⟨(), h, rfl⟩
    | changing => exact .inr ⟨hother rfl h.here.head (by decide), .inl ⟨(), h, rfl⟩⟩
    | idempotent =>
      exact .inr ⟨hother rfl h.here.head (by decide),
        .inr ⟨hother rfl h.here.head (by decide), (), h, rfl⟩⟩

lemma spelled_promise {o : Option Safety}
    (h : (optional (do let s ← safety; gap; pure s)).Gives c o c') : Promise o c c' := by
  obtain ⟨s, rfl, hg⟩ | ⟨rfl, rfl, -⟩ := gives_optional.mp h
  · obtain ⟨c₁, hword, hgap, -⟩ := gives_followed.mp hg
    exact .word s (gives_safety.mp hword) hgap
  · exact .nothing c

lemma gives_promise {o : Option Safety} (h : Promise o c c') (hnext : c'.rest.head? = some '{') :
    (optional (do let s ← safety; gap; pure s)).Gives c o c' := by
  cases h with
  | nothing =>
    refine gives_optional.mpr (.inr ⟨rfl, rfl, fails_bind_left (fails_iff.mpr fun s c' hg => ?_)⟩)
    have hword := (gives_safety.mp hg).here
    cases s <;> cases hnext.symm.trans (Cursor.Spells.head hword)
  | word s here gap =>
    refine gives_optional.mpr (.inl ⟨s, rfl, ?_⟩)
    refine gives_followed.mpr ⟨_, gives_safety.mpr here, gap, ?_⟩
    exact gapEnd_of_head hnext (by decide)

lemma gapEnd_of_promise {o : Option Safety} (h : Promise o c c') (hnext : GapEnd c') :
    GapEnd c := by
  cases h with
  | nothing => exact hnext
  | word s here gap =>
    have hword := here.here
    cases s <;> exact gapEnd_of_head (Cursor.Spells.head hword) (by decide)

lemma closed_of_promise {o : Option Safety} (hc : c.Closed) (h : Promise o c c') : c'.Closed := by
  cases h with
  | nothing => exact hc
  | word s here gap =>
    have hword : s.text.toList.all Token.isIdentChar = true := by cases s <;> decide
    exact gap.closed (here.closed hword hc)

/-- What a parser of a definition takes up behind a title. -/
def Item (lines : Lines) (start : Nat) (title : Option String) (d : Contracts.ProfileDefinition)
    (c c' : Cursor) : Prop :=
  ∃ item name, Spelling.ProfileItem item name c c' ∧
    d = ⟨item, name, title, lines.location start c'.offset⟩

lemma spelled_usecase (hc : c.Closed) (h : (usecase lines start title).Gives c d c') :
    Item lines start title d c c' ∧ c'.Closed := by
  obtain ⟨_, c₁, hword, h⟩ := gives_bind.mp h
  obtain ⟨_, c₂, hgap₁, h⟩ := gives_bind.mp h
  obtain ⟨name, c₃, hname, h⟩ := gives_bind.mp h
  obtain ⟨_, c₄, hgap₂, h⟩ := gives_bind.mp h
  obtain ⟨promise, c₅, hpromise, h⟩ := gives_bind.mp h
  obtain ⟨calls, c₆, hbody, h⟩ := gives_bind.mp h
  obtain ⟨_, _, hstop, h⟩ := gives_bind.mp h
  obtain ⟨rfl, rfl⟩ := gives_offset.mp hstop
  obtain ⟨rfl, rfl⟩ := gives_pure.mp h
  have hword := gives_keyword.mp hword
  have hgap₁ := (gives_gap.mp hgap₁).1
  have hname := gives_identifier.mp hname
  have hgap₂ := (gives_gap.mp hgap₂).1
  have hpromise := spelled_promise hpromise
  have hc₄ := hgap₂.closed (hname.closed (hgap₁.closed (hword.closed (by decide) hc)))
  have hc₅ := closed_of_promise hc₄ hpromise
  have hbody := spelled_body hc₅ hbody
  exact ⟨⟨_, _, .usecase hword hgap₁ hname hgap₂ hpromise hbody, rfl⟩, hbody.balanced.closed hc₅⟩

lemma spelled_model (hc : c.Closed) (h : (model lines start title).Gives c d c') :
    Item lines start title d c c' ∧ c'.Closed := by
  obtain ⟨_, c₁, hword, h⟩ := gives_bind.mp h
  obtain ⟨_, c₂, hgap, h⟩ := gives_bind.mp h
  obtain ⟨name, c₃, hname, h⟩ := gives_bind.mp h
  obtain ⟨o, c₄, hbody, h⟩ := gives_bind.mp h
  obtain ⟨_, _, hstop, h⟩ := gives_bind.mp h
  obtain ⟨rfl, rfl⟩ := gives_offset.mp hstop
  obtain ⟨rfl, rfl⟩ := gives_pure.mp h
  have hword := gives_keyword.mp hword
  have hgap := (gives_gap.mp hgap).1
  have hname := gives_identifier.mp hname
  have hc₃ := hname.closed (hgap.closed (hword.closed (by decide) hc))
  obtain ⟨calls, rfl, hg⟩ | ⟨rfl, rfl, -⟩ := gives_optional.mp hbody
  · obtain ⟨_, c₅, hgap', hg⟩ := gives_bind.mp hg
    have hgap' := (gives_gap.mp hgap').1
    have hbody := spelled_body (hgap'.closed hc₃) hg
    exact ⟨⟨_, _, .model hword hgap hname (.body hgap' hbody), rfl⟩,
      hbody.balanced.closed (hgap'.closed hc₃)⟩
  · exact ⟨⟨_, _, .model hword hgap hname (.nothing _), rfl⟩, hc₃⟩

lemma isReserved_iff {word : String} : isReserved word.toList = true ↔ word ∈ reserved := by
  rw [isReserved, List.any_eq_true]
  constructor
  · rintro ⟨w, hw, heq⟩
    rwa [← String.toList_inj.mp (beq_iff_eq.mp heq)]
  · exact fun h => ⟨word, h, beq_self_eq_true _⟩

lemma spelled_fieldType {type : String} (hc : c₁.Closed) (gap : Gap c c₁)
    (h : (fieldType lines).Gives c₁ type c') : FieldType (some type) c c' ∧ c'.Closed := by
  obtain h | ⟨-, h⟩ := gives_orElse.mp h
  · obtain ⟨_, _, hahead, hname⟩ := gives_bind.mp h
    obtain ⟨hfree, rfl⟩ := gives_notAhead.mp hahead
    have hident := gives_identifier.mp hname
    refine ⟨.name gap hident fun hreserved => ?_, hident.closed hc⟩
    rw [hident.identifier?_eq, Option.any_some, isReserved_iff.mpr hreserved] at hfree
    cases hfree
  · obtain ⟨calls, hbody, rfl⟩ := gives_map.mp h
    have hbody := spelled_body hc hbody
    exact ⟨.body gap hbody, hbody.balanced.closed hc⟩

lemma spelled_field (hc : c.Closed) (h : (field lines start title).Gives c d c') :
    Item lines start title d c c' ∧ c'.Closed := by
  obtain ⟨_, c₁, hword, h⟩ := gives_bind.mp h
  obtain ⟨_, c₂, hgap, h⟩ := gives_bind.mp h
  obtain ⟨name, c₃, hname, h⟩ := gives_bind.mp h
  obtain ⟨o, c₄, htype, h⟩ := gives_bind.mp h
  obtain ⟨_, _, hstop, h⟩ := gives_bind.mp h
  obtain ⟨rfl, rfl⟩ := gives_offset.mp hstop
  obtain ⟨rfl, rfl⟩ := gives_pure.mp h
  have hword := gives_keyword.mp hword
  have hgap := (gives_gap.mp hgap).1
  have hname := gives_identifier.mp hname
  have hc₃ := hname.closed (hgap.closed (hword.closed (by decide) hc))
  obtain ⟨type, rfl, hg⟩ | ⟨rfl, rfl, -⟩ := gives_optional.mp htype
  · obtain ⟨_, c₅, hgap', hg⟩ := gives_bind.mp hg
    have hgap' := (gives_gap.mp hgap').1
    obtain ⟨htype, hc'⟩ := spelled_fieldType (hgap'.closed hc₃) hgap' hg
    exact ⟨⟨_, _, .field hword hgap hname htype, rfl⟩, hc'⟩
  · exact ⟨⟨_, _, .field hword hgap hname (.nothing _), rfl⟩, hc₃⟩

lemma spelled_profileDefinition (hc : c.Closed) (h : (profileDefinition lines).Gives c d c') :
    Spelling.ProfileDefinition lines d c c' ∧ c'.Closed := by
  obtain ⟨_, _, hstart, h⟩ := gives_bind.mp h
  obtain ⟨rfl, rfl⟩ := gives_offset.mp hstart
  obtain ⟨o, c₁, htitle, h⟩ := gives_bind.mp h
  have htitle := spelled_title hc htitle
  have hc₁ := htitle.closed hc
  obtain ⟨⟨item, name, hitem, rfl⟩, hc'⟩ : Item lines c.offset o.join d c₁ c' ∧ c'.Closed := by
    obtain h | ⟨-, h⟩ := gives_orElse.mp h
    · exact spelled_usecase hc₁ h
    · obtain h | ⟨-, h⟩ := gives_orElse.mp h
      · exact spelled_model hc₁ h
      · exact spelled_field hc₁ h
  exact ⟨⟨htitle, hitem⟩, hc'⟩

/-! ### Every definition is read -/

lemma fails_body_of_start (h : Start c) : (body lines).Fails c :=
  fails_iff.mpr fun _ _ hg => h.head_ne (by decide) (head_of_bodyWithin hg)

lemma exists_gives_optionalBody {c₂ : Cursor} (h : OptionalBody c c') (hgap : Gap c' c₂)
    (hnext : Start c₂) : ∃ o, (optional (do gap; body lines)).Gives c o c' := by
  cases h with
  | nothing =>
    have hfails : (do gap; body lines).Fails c :=
      fails_behind_gap hgap hnext.gapEnd (fails_body_of_start hnext)
    exact ⟨none, gives_optional.mpr (.inr ⟨rfl, rfl, hfails⟩)⟩
  | body gap here =>
    obtain ⟨calls, hbody⟩ : ∃ calls, (body lines).Gives _ calls c' := exists_gives_body here
    have hgives := gives_behind_gap gap (gapEnd_of_head here.head (by decide)) hbody
    exact ⟨some calls, gives_optional.mpr (.inl ⟨calls, rfl, hgives⟩)⟩

lemma fails_fieldType_of_start (h : Start c) : (fieldType lines).Fails c := by
  refine fails_orElse.mpr
    ⟨fails_bind fun u c₁ hahead => ?_, fails_bind_left (fails_body_of_start h)⟩
  obtain ⟨hfree, rfl⟩ := gives_notAhead.mp hahead
  refine fails_iff.mpr fun name c₂ hname => ?_
  obtain ⟨ch, hhead, hstart⟩ := (gives_identifier.mp hname).head
  cases h with
  | ended h => simp [h] at hhead
  | title h =>
    cases hhead.symm.trans h
    exact absurd hstart (by decide)
  | word hreserved h =>
    rw [(ident_of_reserved hreserved h).identifier?_eq, Option.any_some,
      isReserved_iff.mpr hreserved] at hfree
    cases hfree

lemma gives_fieldType {c₂ : Cursor} {type : Option String} (h : FieldType type c c')
    (hgap : Gap c' c₂) (hnext : Start c₂) :
    (optional (do gap; fieldType lines)).Gives c type c' := by
  cases h with
  | nothing =>
    have hfails : (do gap; fieldType lines).Fails c :=
      fails_behind_gap hgap hnext.gapEnd (fails_fieldType_of_start hnext)
    exact gives_optional.mpr (.inr ⟨rfl, rfl, hfails⟩)
  | @name c c₁ c' name gap here free =>
    have hfree : (Token.identifier? c₁.rest).any isReserved = false := by
      rw [here.identifier?_eq, Option.any_some, Bool.eq_false_iff, ne_eq, isReserved_iff]
      exact free
    have hgives : (fieldType lines).Gives c₁ name c' := gives_orElse.mpr (.inl (gives_bind.mpr
      ⟨(), c₁, gives_notAhead.mpr ⟨hfree, rfl⟩, gives_identifier.mpr here⟩))
    exact gives_optional.mpr (.inl ⟨name, rfl, gives_behind_gap gap here.gapEnd hgives⟩)
  | @body c c₁ c' gap here =>
    obtain ⟨calls, hbody⟩ : ∃ calls, (body lines).Gives c₁ calls c' := exists_gives_body here
    have hnoName :
        (do notAhead fun cs => (Token.identifier? cs).any isReserved; identifier).Fails c₁ := by
      refine fails_bind fun u c₂ hahead => ?_
      obtain ⟨-, rfl⟩ := gives_notAhead.mp hahead
      refine fails_iff.mpr fun name c₂ hname => ?_
      obtain ⟨ch, hhead, hstart⟩ := (gives_identifier.mp hname).head
      cases hhead.symm.trans here.head
      exact absurd hstart (by decide)
    have hgives : (fieldType lines).Gives c₁ "\x7b...\x7d" c' :=
      gives_orElse.mpr (.inr ⟨hnoName, gives_map.mpr ⟨calls, hbody, rfl⟩⟩)
    exact gives_optional.mpr (.inl ⟨_, rfl,
      gives_behind_gap gap (gapEnd_of_head here.head (by decide)) hgives⟩)

lemma start_of_item (h : Spelling.ProfileItem item name c c') : Start c := by
  cases h with
  | usecase hword => exact .word (by decide) hword
  | model hword => exact .word (by decide) hword
  | field hword => exact .word (by decide) hword

lemma head_ne_of_item (h : Spelling.ProfileItem item name c c') : c.rest.head? ≠ some '"' := by
  cases h with
  | usecase hword => simp [hword.here.1]
  | model hword => simp [hword.here.1]
  | field hword => simp [hword.here.1]

lemma gives_item {c₂ : Cursor} (h : Spelling.ProfileItem item name c c') (hgap : Gap c' c₂)
    (hnext : Start c₂) :
    (usecase lines start title <|> model lines start title <|> field lines start title).Gives c
      ⟨item, name, title, lines.location start c'.offset⟩ c' := by
  have hstop : ∀ d : Nat → Contracts.ProfileDefinition,
      (do let stop ← offset; pure (d stop)).Gives c' (d c'.offset) c' := fun d =>
    gives_bind.mpr ⟨_, _, gives_offset.mpr ⟨rfl, rfl⟩, gives_pure.mpr ⟨rfl, rfl⟩⟩
  cases h with
  | usecase hword gap₁ hname gap₂ promise body =>
    obtain ⟨calls, hbody⟩ : ∃ calls, (Grammar.body lines).Gives _ calls c' := exists_gives_body body
    have hend := gapEnd_of_head body.head (by decide)
    refine gives_orElse.mpr (.inl ?_)
    refine gives_bind.mpr ⟨(), _, gives_keyword.mpr hword, ?_⟩
    refine gives_bind.mpr ⟨(), _, gives_gap.mpr ⟨gap₁, hname.gapEnd⟩, ?_⟩
    refine gives_bind.mpr ⟨_, _, gives_identifier.mpr hname, ?_⟩
    refine gives_bind.mpr ⟨(), _, gives_gap.mpr ⟨gap₂, gapEnd_of_promise promise hend⟩, ?_⟩
    refine gives_bind.mpr ⟨_, _, gives_promise promise body.head, ?_⟩
    exact gives_bind.mpr ⟨calls, _, hbody, hstop _⟩
  | model hword gap hname body =>
    obtain ⟨o, hbody⟩ := exists_gives_optionalBody body hgap hnext
    have husecase : (usecase lines start title).Fails c :=
      fails_bind_left (fails_keyword rfl hword.here.head (by decide))
    refine gives_orElse.mpr (.inr ⟨husecase, gives_orElse.mpr (.inl ?_)⟩)
    refine gives_bind.mpr ⟨(), _, gives_keyword.mpr hword, ?_⟩
    refine gives_bind.mpr ⟨(), _, gives_gap.mpr ⟨gap, hname.gapEnd⟩, ?_⟩
    refine gives_bind.mpr ⟨_, _, gives_identifier.mpr hname, ?_⟩
    exact gives_bind.mpr ⟨o, _, hbody, hstop _⟩
  | field hword gap hname htype =>
    have husecase : (usecase lines start title).Fails c :=
      fails_bind_left (fails_keyword rfl hword.here.head (by decide))
    have hmodel : (model lines start title).Fails c :=
      fails_bind_left (fails_keyword rfl hword.here.head (by decide))
    refine gives_orElse.mpr (.inr ⟨husecase, gives_orElse.mpr (.inr ⟨hmodel, ?_⟩)⟩)
    refine gives_bind.mpr ⟨(), _, gives_keyword.mpr hword, ?_⟩
    refine gives_bind.mpr ⟨(), _, gives_gap.mpr ⟨gap, hname.gapEnd⟩, ?_⟩
    refine gives_bind.mpr ⟨_, _, gives_identifier.mpr hname, ?_⟩
    exact gives_bind.mpr ⟨_, _, gives_fieldType htype hgap hnext, hstop _⟩

lemma start_of_profileDefinition (h : Spelling.ProfileDefinition lines d c c') : Start c := by
  obtain ⟨htitle, hitem⟩ := h
  exact htitle.start (start_of_item hitem)

lemma gives_profileDefinition {c₂ : Cursor} (h : Spelling.ProfileDefinition lines d c c')
    (hgap : Gap c' c₂) (hnext : Start c₂) : (profileDefinition lines).Gives c d c' := by
  obtain ⟨htitle, hitem⟩ := h
  obtain ⟨o, rfl, htitled⟩ :=
    exists_gives_title htitle (start_of_item hitem).gapEnd (head_ne_of_item hitem)
  refine gives_bind.mpr ⟨_, _, gives_offset.mpr ⟨rfl, rfl⟩, ?_⟩
  exact gives_bind.mpr ⟨o, _, htitled, gives_item hitem hgap hnext⟩

lemma advances_fieldType : (fieldType lines).Advances := by
  intro c type c' h
  obtain h | ⟨-, h⟩ := gives_orElse.mp h
  · obtain ⟨_, _, hahead, hname⟩ := gives_bind.mp h
    obtain ⟨-, rfl⟩ := gives_notAhead.mp hahead
    exact (gives_identifier.mp hname).length_lt.le
  · obtain ⟨calls, hbody, -⟩ := gives_map.mp h
    exact advances_body _ _ _ hbody

lemma consumes_profileDefinition : (profileDefinition lines).Consumes := by
  have hstop : ∀ d : Nat → Contracts.ProfileDefinition,
      (do let stop ← offset; pure (d stop)).Advances := fun d =>
    advances_offset.bind fun stop => advances_pure _
  have hnamed : ∀ {word : String} {f : String → Parser Contracts.ProfileDefinition}, word ≠ "" →
      (∀ name, (f name).Advances) →
      (do keyword word; gap; let name ← identifier; f name).Consumes := fun hword hf =>
    (consumes_keyword hword).bind fun _ => advances_gap.bind fun _ =>
      consumes_identifier.advances.bind hf
  have hsafety : safety.Advances := fun c s c' h => by
    have := (gives_safety.mp h).here.length
    omega
  have htitle : (do let s ← docString; gap; pure (firstLine? s.toList)).Advances :=
    consumes_docString.advances.bind fun _ => advances_gap.bind fun _ => advances_pure _
  refine advances_offset.bind_consumes fun start => htitle.optional.bind_consumes fun title => ?_
  refine (hnamed (by decide) fun name => ?_).orElse
    ((hnamed (by decide) fun name => ?_).orElse (hnamed (by decide) fun name => ?_))
  · exact advances_gap.bind fun _ => (hsafety.bind fun _ => advances_gap.bind fun _ =>
      advances_pure _).optional.bind fun _ => advances_body.bind fun _ => hstop _
  · exact (advances_gap.bind fun _ => advances_body).optional.bind fun _ => hstop _
  · exact (advances_gap.bind fun _ => advances_fieldType).optional.bind fun _ => hstop _

end Definitions

/-! ### Whole texts -/

variable {text : List Char} {p : Contracts.Profile}

/-- **Soundness**: what is read as a profile is spelled as one. -/
lemma spelled_profile (hc : Cursor.Closed ⟨text, 0⟩) (h : (profile lines).Gives ⟨text, 0⟩ p c') :
    Spelling.Profile lines text p := by
  obtain ⟨c, c₁, c₂, header, definitions, hgap₁, hheader, hgap₂, hrepeats, hend, rfl⟩ :=
    framed_of_gives (fun h ds l => (⟨h, ds, l⟩ : Contracts.Profile)) consumes_profileDefinition h
  have hheader := gives_profileHeader.mp hheader
  have hc₂ := hgap₂.closed (closed_of_profileHeader (hgap₁.closed hc) hheader)
  have hspelled : Definitions (Spelling.ProfileDefinition lines) (definitions.map id) _ _ :=
    spelled_definitions (fun _ _ _ => spelled_profileDefinition) hc₂ hrepeats
  rw [List.map_id] at hspelled
  exact ⟨hgap₁, hheader, hgap₂, hspelled, hend⟩

/-- **Completeness**: what is spelled as a profile is read as that one. -/
lemma exists_gives_profile (h : Spelling.Profile lines text p) :
    ∃ c', (profile lines).Gives ⟨text, 0⟩ p c' := by
  obtain @⟨c, c₁, c₂, c', header, definitions, gap₁, hheader, gap₂, hdefinitions, hend⟩ := h
  have hheaderEnd := gapEnd_of_profileHeader hheader
  have hstart := hdefinitions.start (fun _ _ _ => start_of_profileDefinition) hend
  obtain ⟨as, rfl, hrepeats⟩ := exists_repeats (fun _ _ _ => start_of_profileDefinition)
    (fun d _ _ _ here gap hnext => ⟨d, id_eq d, gives_profileDefinition here gap hnext⟩)
    consumes_profileDefinition hdefinitions hend
  rw [List.map_id]
  refine ⟨c', gives_bind.mpr ⟨(), _, gives_gap.mpr ⟨gap₁, hheaderEnd⟩, ?_⟩⟩
  refine gives_bind.mpr ⟨_, _, gives_offset.mpr ⟨rfl, rfl⟩, ?_⟩
  refine gives_bind.mpr ⟨_, _, gives_profileHeader.mpr hheader, ?_⟩
  refine gives_bind.mpr ⟨(), _, gives_gap.mpr ⟨gap₂, hstart.gapEnd⟩, ?_⟩
  refine gives_bind.mpr ⟨_, _,
    (gives_many (consumes_followed consumes_profileDefinition)).mpr hrepeats, ?_⟩
  refine gives_bind.mpr ⟨_, _, gives_offset.mpr ⟨rfl, rfl⟩, ?_⟩
  exact gives_bind.mpr ⟨(), _, gives_ending.mpr ⟨hend, rfl⟩, gives_pure.mpr ⟨rfl, rfl⟩⟩

end Grammar

/-- **The language of profiles.** A text is read as a profile exactly if its strings are closed and
it is spelled as one. There is only one way to spell it, and the tree holds what is spelled. -/
theorem readTree_profile (text : String) :
    (∀ t, readTree .profile text = .ok t ↔ openString? text.toList = none ∧
      ∃ p, Spelling.Profile (Lines.ofText text.toList) text.toList p ∧ t = .profile p) ∧
    ∀ p q, Spelling.Profile (Lines.ofText text.toList) text.toList p →
      Spelling.Profile (Lines.ofText text.toList) text.toList q → p = q := by
  refine ⟨fun t => ?_, fun p q hp hq => ?_⟩
  · rw [readTree_eq_ok]
    refine and_congr_right fun hclosed => ?_
    constructor
    · rintro ⟨c', h⟩
      obtain ⟨p, hp, rfl⟩ := Parser.gives_map.mp h
      exact ⟨p, Grammar.spelled_profile hclosed hp, rfl⟩
    · rintro ⟨p, hp, rfl⟩
      obtain ⟨c', h⟩ := Grammar.exists_gives_profile hp
      exact ⟨c', Parser.gives_map.mpr ⟨p, h, rfl⟩⟩
  · obtain ⟨c₁, h₁⟩ := Grammar.exists_gives_profile hp
    obtain ⟨c₂, h₂⟩ := Grammar.exists_gives_profile hq
    exact (h₁.unique h₂).1

end Contracts
