import Contracts.Proofs.Source.Documents

/-!
The parser of maps against the way maps are spelled.

Of the bodies of a map only the calls are kept, which the rules say nothing about: they are left out
of the tree that is compared. The provider and the variant may be any strings, also empty ones, so
it takes a text in which none of them is followed by another quote for the pre-scan to see them as
the grammar does.
-/

namespace Contracts

open Spelling

/-- A map with the calls left out. -/
def MapDocument.withoutCalls (m : MapDocument) : MapDocument :=
  { m with definitions := m.definitions.map fun d => { d with calls := [] } }

namespace Grammar

open Contracts.Parser

variable {lines : Lines} {c c₁ c₂ c' : Cursor} {text : List Char}

lemma ne_empty_of_profileId {text : String} {profile : ProfileId}
    (h : ProfileId.ofText? text = some profile) : text ≠ "" := by
  rintro rfl
  exact absurd h (by decide +revert)

/-! ### The header -/

/-- The variant behind a gap. -/
lemma gives_variant {o : Option String} (h : Variant o c c') (hgap : Gap c' c₂) (hnext : Start c₂) :
    (optional (do gap; literal "variant"; gap; literal "="; gap; string)).Gives c o c' := by
  cases h with
  | nothing =>
    refine gives_optional.mpr (.inr ⟨rfl, rfl, fails_behind_gap hgap hnext.gapEnd ?_⟩)
    refine fails_iff.mpr fun text c₃ hg => ?_
    obtain ⟨c₄, ⟨hvariant, -⟩, -⟩ := gives_assigned.mp hg
    exact hnext.head_ne (by decide) hvariant.head
  | variant gap here =>
    obtain ⟨assigned, quoted⟩ := here
    refine gives_optional.mpr (.inl ⟨_, rfl, ?_⟩)
    refine gives_behind_gap gap (assigned.gapEnd rfl (by decide)) ?_
    exact gives_assigned.mpr ⟨_, assigned, quoted.gapEnd, gives_string.mpr quoted⟩

lemma spelled_variant {o : Option String}
    (h : (optional (do gap; literal "variant"; gap; literal "="; gap; string)).Gives c o c') :
    Variant o c c' := by
  obtain ⟨text, rfl, hg⟩ | ⟨rfl, rfl, -⟩ := gives_optional.mp h
  · obtain ⟨_, c₁, hgap, hg⟩ := gives_bind.mp hg
    obtain ⟨c₂, assigned, -, hstring⟩ := gives_assigned.mp hg
    exact .variant (gives_gap.mp hgap).1 ⟨assigned, gives_string.mp hstring⟩
  · exact .nothing c

lemma spelled_mapHeader {header : Contracts.MapHeader} (h : (mapHeader lines).Gives c header c') :
    Spelling.MapHeader lines header c c' := by
  obtain ⟨_, _, hstart, h⟩ := gives_bind.mp h
  obtain ⟨rfl, rfl⟩ := gives_offset.mp hstart
  obtain ⟨c₁, hprofile, -, h⟩ := gives_assigned.mp h
  obtain ⟨profile, c₂, hchecked, h⟩ := gives_bind.mp h
  obtain ⟨profileText, hprofileText, profile_eq⟩ := gives_checked.mp hchecked
  obtain ⟨_, c₃, hgap, h⟩ := gives_bind.mp h
  obtain ⟨c₄, hprovider, -, h⟩ := gives_assigned.mp h
  obtain ⟨provider, c₅, hproviderText, h⟩ := gives_bind.mp h
  obtain ⟨variant, c₆, hvariant, h⟩ := gives_bind.mp h
  obtain ⟨_, _, hstop, h⟩ := gives_bind.mp h
  obtain ⟨rfl, rfl⟩ := gives_offset.mp hstop
  obtain ⟨rfl, rfl⟩ := gives_pure.mp h
  exact ⟨⟨⟨hprofile, gives_string.mp hprofileText⟩, profile_eq, (gives_gap.mp hgap).1,
    ⟨hprovider, gives_string.mp hproviderText⟩⟩, spelled_variant hvariant⟩

lemma gives_mapHeader {header : Contracts.MapHeader} (h : Spelling.MapHeader lines header c c')
    (hgap : Gap c' c₂) (hnext : Start c₂) : (mapHeader lines).Gives c header c' := by
  obtain ⟨⟨⟨hprofile, profileQuoted⟩, profile_eq, gap, ⟨hprovider, providerQuoted⟩⟩, hvariant⟩ := h
  refine gives_bind.mpr ⟨_, _, gives_offset.mpr ⟨rfl, rfl⟩, ?_⟩
  refine gives_assigned.mpr ⟨_, hprofile, profileQuoted.gapEnd, ?_⟩
  refine gives_bind.mpr
    ⟨_, _, gives_checked.mpr ⟨_, gives_string.mpr profileQuoted, profile_eq⟩, ?_⟩
  refine gives_bind.mpr ⟨(), _, gives_gap.mpr ⟨gap, hprovider.gapEnd rfl (by decide)⟩, ?_⟩
  refine gives_assigned.mpr ⟨_, hprovider, providerQuoted.gapEnd, ?_⟩
  refine gives_bind.mpr ⟨_, _, gives_string.mpr providerQuoted, ?_⟩
  refine gives_bind.mpr ⟨_, _, gives_variant hvariant hgap hnext, ?_⟩
  exact gives_bind.mpr ⟨_, _, gives_offset.mpr ⟨rfl, rfl⟩, gives_pure.mpr ⟨rfl, rfl⟩⟩

lemma gapEnd_of_mapHeader {header : Contracts.MapHeader}
    (h : Spelling.MapHeader lines header c c') : GapEnd c := by
  obtain ⟨⟨⟨hprofile, -⟩, -⟩, -⟩ := h
  exact hprofile.gapEnd rfl (by decide)

lemma closed_of_mapHeader {header : Contracts.MapHeader} (hgap : Gap ⟨text, 0⟩ c) (hc : c.Closed)
    (hends : ∀ c, HeaderStringEnd text c → c.rest.head? ≠ some '"')
    (h : Spelling.MapHeader lines header c c') : c'.Closed := by
  obtain ⟨hprovider, hvariant⟩ := h
  have hproviderEnd := hends _ (.provider hgap hprovider)
  have hcopy := hprovider
  obtain ⟨hprofile, profile_eq, gap, setting⟩ := hcopy
  have hc₁ := hprofile.closed (by decide) (fun h => absurd h (ne_empty_of_profileId profile_eq)) hc
  have hc₃ := setting.closed (by decide) (fun _ => hproviderEnd) (gap.closed hc₁)
  cases hvariant with
  | nothing => exact hc₃
  | variant gap here =>
    have hvariantEnd := hends _ (.variant hgap hprovider (.variant gap here))
    exact here.closed (by decide) (fun _ => hvariantEnd) (gap.closed hc₃)

/-! ### Definitions -/

section Definitions

variable {item : MapItem} {d : Contracts.MapDefinition} {word : String}

lemma spelled_mapItem (hword : word = itemWord item) (hc : c.Closed)
    (h : (mapItem lines word item).Gives c d c') :
    Spelling.MapDefinition lines { d with calls := [] } c c' ∧ c'.Closed := by
  subst hword
  obtain ⟨_, _, hstart, h⟩ := gives_bind.mp h
  obtain ⟨rfl, rfl⟩ := gives_offset.mp hstart
  obtain ⟨_, c₁, htitle, h⟩ := gives_bind.mp h
  obtain ⟨_, c₂, hword, h⟩ := gives_bind.mp h
  obtain ⟨_, c₃, hgap₁, h⟩ := gives_bind.mp h
  obtain ⟨name, c₄, hname, h⟩ := gives_bind.mp h
  obtain ⟨_, c₅, hgap₂, h⟩ := gives_bind.mp h
  obtain ⟨calls, c₆, hbody, h⟩ := gives_bind.mp h
  obtain ⟨_, _, hstop, h⟩ := gives_bind.mp h
  obtain ⟨rfl, rfl⟩ := gives_offset.mp hstop
  obtain ⟨rfl, rfl⟩ := gives_pure.mp h
  obtain ⟨title, htitle⟩ := spelled_untitled hc htitle
  have hword := gives_keyword.mp hword
  have hgap₁ := (gives_gap.mp hgap₁).1
  have hname := gives_identifier.mp hname
  have hgap₂ := (gives_gap.mp hgap₂).1
  have hletters : (itemWord item).toList.all Token.isIdentChar = true := by cases item <;> decide
  have hc₂ := hword.closed hletters (htitle.closed hc)
  have hc₅ := hgap₂.closed (hname.closed (hgap₁.closed hc₂))
  have hbody := spelled_body hc₅ hbody
  exact ⟨.mk item htitle hword hgap₁ hname hgap₂ hbody, hbody.balanced.closed hc₅⟩

lemma spelled_mapDefinition (hc : c.Closed) (h : (mapDefinition lines).Gives c d c') :
    Spelling.MapDefinition lines { d with calls := [] } c c' ∧ c'.Closed := by
  have hmap : "map" = itemWord .map := rfl
  have hoperation : "operation" = itemWord .operation := rfl
  obtain h | ⟨-, h⟩ := gives_orElse.mp h
  · exact spelled_mapItem hmap hc h
  · exact spelled_mapItem hoperation hc h

lemma start_of_mapDefinition (h : Spelling.MapDefinition lines d c c') : Start c := by
  obtain ⟨item, htitle, hword, -⟩ := h
  refine htitle.start (.word ?_ hword)
  cases item <;> decide

/-- Whatever calls are in it, a definition is read. -/
lemma exists_gives_mapItem {title : Option String} {name : String} {c₃ c₄ c₅ : Cursor}
    (htitle : Title title c c₁) (hword : Word word c₁ c₂) (hstart : Start c₁)
    (hhead : c₁.rest.head? ≠ some '"') (gap₁ : Gap c₂ c₃) (hname : Ident name c₃ c₄)
    (gap₂ : Gap c₄ c₅) (hbody : Body c₅ c') : ∃ calls, (mapItem lines word item).Gives c
      ⟨item, name, calls, lines.location c.offset c'.offset⟩ c' := by
  obtain ⟨u, htitled⟩ := exists_gives_untitled htitle hstart.gapEnd hhead
  obtain ⟨calls, hcalls⟩ : ∃ calls, (body lines).Gives c₅ calls c' := exists_gives_body hbody
  refine ⟨calls, gives_bind.mpr ⟨_, _, gives_offset.mpr ⟨rfl, rfl⟩, ?_⟩⟩
  refine gives_bind.mpr ⟨u, _, htitled, ?_⟩
  refine gives_bind.mpr ⟨(), _, gives_keyword.mpr hword, ?_⟩
  refine gives_bind.mpr ⟨(), _, gives_gap.mpr ⟨gap₁, hname.gapEnd⟩, ?_⟩
  refine gives_bind.mpr ⟨_, _, gives_identifier.mpr hname, ?_⟩
  refine gives_bind.mpr ⟨(), _, gives_gap.mpr ⟨gap₂, gapEnd_of_head hbody.head (by decide)⟩, ?_⟩
  refine gives_bind.mpr ⟨calls, _, hcalls, ?_⟩
  exact gives_bind.mpr ⟨_, _, gives_offset.mpr ⟨rfl, rfl⟩, gives_pure.mpr ⟨rfl, rfl⟩⟩

lemma exists_gives_mapDefinition (h : Spelling.MapDefinition lines d c c') :
    ∃ d', { d' with calls := [] } = d ∧ (mapDefinition lines).Gives c d' c' := by
  have hstart := start_of_mapDefinition h
  obtain @⟨c, c₁, c₂, c₃, c₄, c₅, c', title, name, item, htitle, hword, gap₁, hname, gap₂,
    hbody⟩ := h
  have hwordStart : Start c₁ := .word (by cases item <;> decide) hword
  have hhead : c₁.rest.head? ≠ some '"' := by cases item <;> simp [hword.here.1, itemWord]
  obtain ⟨calls, hgives⟩ : ∃ calls, (mapItem lines (itemWord item) item).Gives c
      ⟨item, name, calls, lines.location c.offset c'.offset⟩ c' :=
    exists_gives_mapItem htitle hword hwordStart hhead gap₁ hname gap₂ hbody
  refine ⟨⟨item, name, calls, _⟩, rfl, gives_orElse.mpr ?_⟩
  cases item with
  | map => exact .inl hgives
  | operation =>
    -- The title is read again, and then the other word is not there.
    refine .inr ⟨fails_bind fun start c₀ hoffset => ?_, hgives⟩
    obtain ⟨rfl, rfl⟩ := gives_offset.mp hoffset
    obtain ⟨u, htitled⟩ := exists_gives_untitled htitle hwordStart.gapEnd hhead
    refine fails_bind fun u' c₆ htitled' => ?_
    obtain ⟨rfl, rfl⟩ := htitled'.unique htitled
    exact fails_bind_left (fails_keyword rfl hword.here.head (by decide))

lemma consumes_mapDefinition : (mapDefinition lines).Consumes := by
  have hitem : ∀ (word : String) (item : MapItem), word ≠ "" →
      (mapItem lines word item).Consumes := by
    intro word item hword
    have htitle : (do let _ ← docString; gap).Advances :=
      consumes_docString.advances.bind fun _ => advances_gap
    refine advances_offset.bind_consumes fun start => htitle.optional.bind_consumes fun _ => ?_
    refine (consumes_keyword hword).bind fun _ => advances_gap.bind fun _ =>
      consumes_identifier.advances.bind fun name => advances_gap.bind fun _ => ?_
    exact advances_body.bind fun calls => advances_offset.bind fun stop => advances_pure _
  exact (hitem "map" .map (by decide)).orElse (hitem "operation" .operation (by decide))

end Definitions

/-! ### Whole texts -/

variable {m : MapDocument}

/-- **Soundness**: what is read as a map is spelled as one. -/
lemma spelled_map (hends : ∀ c, HeaderStringEnd text c → c.rest.head? ≠ some '"')
    (hc : Cursor.Closed ⟨text, 0⟩) (h : (map lines).Gives ⟨text, 0⟩ m c') :
    Spelling.Map lines text m.withoutCalls := by
  obtain ⟨c, c₁, c₂, header, definitions, hgap₁, hheader, hgap₂, hrepeats, hend, rfl⟩ :=
    framed_of_gives (fun h ds l => (⟨h, ds, l⟩ : MapDocument)) consumes_mapDefinition h
  have hheader := spelled_mapHeader hheader
  have hc₂ := hgap₂.closed (closed_of_mapHeader hgap₁ (hgap₁.closed hc) hends hheader)
  exact ⟨hgap₁, hheader, hgap₂,
    spelled_definitions (fun _ _ _ => spelled_mapDefinition) hc₂ hrepeats, hend⟩

/-- **Completeness**: what is spelled as a map is read as that one. -/
lemma exists_gives_map (h : Spelling.Map lines text m) :
    ∃ m' c', m'.withoutCalls = m ∧ (map lines).Gives ⟨text, 0⟩ m' c' := by
  obtain @⟨c, c₁, c₂, c', header, definitions, gap₁, hheader, gap₂, hdefinitions, hend⟩ := h
  have hstart := hdefinitions.start (fun _ _ _ => start_of_mapDefinition) hend
  obtain ⟨as, rfl, hrepeats⟩ := exists_repeats (fun _ _ _ => start_of_mapDefinition)
    (fun d _ _ _ here _ _ => exists_gives_mapDefinition here) consumes_mapDefinition hdefinitions
    hend
  refine ⟨⟨header, as, _⟩, c', rfl, ?_⟩
  refine gives_bind.mpr ⟨(), _, gives_gap.mpr ⟨gap₁, gapEnd_of_mapHeader hheader⟩, ?_⟩
  refine gives_bind.mpr ⟨_, _, gives_offset.mpr ⟨rfl, rfl⟩, ?_⟩
  refine gives_bind.mpr ⟨_, _, gives_mapHeader hheader gap₂ hstart, ?_⟩
  refine gives_bind.mpr ⟨(), _, gives_gap.mpr ⟨gap₂, hstart.gapEnd⟩, ?_⟩
  refine gives_bind.mpr ⟨_, _,
    (gives_many (consumes_followed consumes_mapDefinition)).mpr hrepeats, ?_⟩
  refine gives_bind.mpr ⟨_, _, gives_offset.mpr ⟨rfl, rfl⟩, ?_⟩
  exact gives_bind.mpr ⟨(), _, gives_ending.mpr ⟨hend, rfl⟩, gives_pure.mpr ⟨rfl, rfl⟩⟩

end Grammar

/-- **The language of maps.** A text in which no quote follows the strings of the provider and of
the variant is read as a map exactly if its strings are closed and it is spelled as one. There is
only one way to spell it, and but for the calls in its bodies the tree holds what is spelled. -/
theorem readTree_map (text : String)
    (hends : ∀ c, HeaderStringEnd text.toList c → c.rest.head? ≠ some '"') :
    ((∃ t, readTree .map text = .ok t) ↔ openString? text.toList = none ∧
      ∃ m, Spelling.Map (Lines.ofText text.toList) text.toList m) ∧
    (∀ t, readTree .map text = .ok t → ∃ m, t = .map m ∧
      Spelling.Map (Lines.ofText text.toList) text.toList m.withoutCalls) ∧
    ∀ m n, Spelling.Map (Lines.ofText text.toList) text.toList m →
      Spelling.Map (Lines.ofText text.toList) text.toList n → m = n := by
  have hread : ∀ t, readTree .map text = .ok t → ∃ m, t = .map m ∧
      Spelling.Map (Lines.ofText text.toList) text.toList m.withoutCalls := by
    intro t ht
    obtain ⟨hclosed, c', h⟩ := readTree_eq_ok.mp ht
    obtain ⟨m, hm, rfl⟩ := Parser.gives_map.mp h
    exact ⟨m, rfl, Grammar.spelled_map hends hclosed hm⟩
  refine ⟨⟨?_, ?_⟩, hread, ?_⟩
  · rintro ⟨t, ht⟩
    obtain ⟨m, -, hm⟩ := hread t ht
    exact ⟨(readTree_eq_ok.mp ht).1, _, hm⟩
  · rintro ⟨hclosed, m, hm⟩
    obtain ⟨m', c', -, h⟩ := Grammar.exists_gives_map hm
    exact ⟨_, readTree_eq_ok.mpr ⟨hclosed, c', Parser.gives_map.mpr ⟨m', h, rfl⟩⟩⟩
  · intro m n hm hn
    obtain ⟨m', c₁, rfl, h₁⟩ := Grammar.exists_gives_map hm
    obtain ⟨n', c₂, rfl, h₂⟩ := Grammar.exists_gives_map hn
    rw [(h₁.unique h₂).1]

/-! ### Texts without adjacent quotes -/

namespace Spelling

variable {c c' : Cursor} {text : List Char} {word : String}

lemma Gap.suffix (h : Gap c c') : c'.rest <:+ c.rest := by
  induction h with
  | nothing => exact List.suffix_refl _
  | blank _ here _ ih => exact ih.trans ⟨_, here.1.symm⟩
  | comment here _ ih =>
    obtain ⟨-, here, -⟩ := here
    exact ih.trans ⟨_, here.1.symm⟩

/-- A line of a header ends with a quote. -/
lemma Setting.suffix {string : String} (h : Setting word string c c') :
    '"' :: c'.rest <:+ c.rest := by
  obtain @⟨c₁, c', ⟨hword, gap₁, equals, gap₂⟩, quoted⟩ := h
  have hquote : '"' :: c'.rest <:+ c₁.rest := ⟨'"' :: string.toList, by simp [quoted.here.1]⟩
  exact hquote.trans (gap₂.suffix.trans (.trans ⟨_, equals.1.symm⟩
    (gap₁.suffix.trans ⟨_, hword.1.symm⟩)))

/-- Where no two quotes are next to each other, no string of the header is followed by one. -/
lemma head_ne_of_headerStringEnd (hpair : ¬ ['"', '"'] <:+: text) (h : HeaderStringEnd text c) :
    c.rest.head? ≠ some '"' := by
  have hprovider : ∀ {c c' : Cursor} {profile : ProfileId} {provider : String},
      Gap ⟨text, 0⟩ c → Provider profile provider c c' → '"' :: c'.rest <:+ text := by
    rintro c c' profile provider gap ⟨hprofile, -, gap', setting⟩
    have hprofileEnd := (List.suffix_cons _ _).trans hprofile.suffix
    exact setting.suffix.trans (gap'.suffix.trans (hprofileEnd.trans gap.suffix))
  have hsuffix : '"' :: c.rest <:+ text := by
    cases h with
    | provider gap h => exact hprovider gap h
    | variant gap h hvariant =>
      obtain _ | ⟨gap', setting⟩ := hvariant
      have hproviderEnd := (List.suffix_cons _ _).trans (hprovider gap h)
      exact setting.suffix.trans (gap'.suffix.trans hproviderEnd)
  intro hhead
  obtain ⟨more, hmore⟩ := List.head?_eq_some_iff.mp hhead
  rw [hmore] at hsuffix
  exact hpair (List.IsInfix.trans ⟨[], more, rfl⟩ hsuffix.isInfix)

end Spelling

/-- The text of a map with a variant and a call in its body. -/
def variantText : String :=
  "profile = \"weather@1.0\"\nprovider = \"p\" // none\nvariant=\"v\" map Get \x7b call Ask \x7d"

theorem readTree_map_variant : ∃ m, readTree .map variantText = .ok (.map m) ∧
    Spelling.Map (Lines.ofText variantText.toList) variantText.toList m.withoutCalls := by
  have hpair : ¬ ['"', '"'] <:+: variantText.toList := by decide +kernel
  have hread : (readTree .map variantText).isOk = true := by decide +kernel
  have hlanguage := readTree_map variantText fun c h => head_ne_of_headerStringEnd hpair h
  cases ht : readTree .map variantText with
  | error e => simp [ht, Except.isOk, Except.toBool] at hread
  | ok t =>
    obtain ⟨m, rfl, hm⟩ := hlanguage.2.1 t ht
    exact ⟨m, rfl, hm⟩

end Contracts
