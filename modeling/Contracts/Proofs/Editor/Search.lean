import Contracts.Editor.Search
import Contracts.Proofs.Enumeration
import Contracts.Proofs.Text.Lowercase

/-!
Search, by the parts of names and by the places of symbols in their outline.

The place of a symbol is the way to it by the number of the child at each level, and the place of
the symbol around it is the same way without its last step. A search walks through the places in
their order and comes by each of them once.
-/

namespace Contracts

/-- The symbol at a place of an outline. -/
def symbolAt? (outline : List Symbol) : List Nat → Option Symbol
  | [] => none
  | [i] => outline[i]?
  | i :: j :: place => outline[i]?.bind fun s => symbolAt? s.children (j :: place)

/-- A hit tells of the symbol at a place, with the name of the symbol around it. -/
def HitAt (uri : Uri) (outline : List Symbol) (place : List Nat) (hit : Hit) : Prop :=
  ∃ s, symbolAt? outline place = some s ∧
    hit = ⟨s.name, s.kind, uri, s.range, (symbolAt? outline place.dropLast).map (·.name)⟩

/-- The name of a hit holds the query, case apart. -/
def Hit.Matches (query : String) (hit : Hit) : Prop :=
  query = "" ∨ lowercase query.toList <:+: lowercase hit.name.toList

variable {uri : Uri} {container : Option String} {outline : List Symbol} {place : List Nat}
  {query : String} {hit : Hit}

/-! ### Names that match -/

lemma contains_iff {part cs : List Char} : contains part cs = true ↔ part <:+: cs := by
  induction cs with
  | nil => simp [contains]
  | cons c cs ih => rw [contains, Bool.or_eq_true, List.isPrefixOf_iff_prefix, ih,
      List.infix_cons_iff]

lemma matchesQuery_iff : matchesQuery hit.name query = true ↔ hit.Matches query := by
  simp [matchesQuery, Hit.Matches, contains_iff]

lemma matchesQuery_iff_infix {name : String} : matchesQuery name query = true ↔
    lowercase query.toList <:+: lowercase name.toList := by
  rw [matchesQuery, Bool.or_eq_true, contains_iff, String.isEmpty_iff, or_iff_right_iff_imp]
  rintro rfl
  exact List.nil_infix

/-- **A part of a name finds it** exactly if each capital sigma in it ends a word there just when it
does so in the name, or else if its lowercase form happens to stand at another place of the name's.
So a part without a capital sigma always does. And a part in lowercase finds what the part finds. -/
theorem part_found_iff (front part back : String) :
    (matchesQuery (front ++ part ++ back) part = true ↔
      SameWordEnds front.toList.reverse part.toList back.toList ∨
        ∃ x y, lowercase (front ++ part ++ back).toList = x ++ lowercase part.toList ++ y ∧
          x.length ≠ (lowercase front.toList).length) ∧
    ('Σ' ∉ part.toList → matchesQuery (front ++ part ++ back) part = true) ∧
    ∀ name, matchesQuery name (String.ofList (lowercase part.toList)) = matchesQuery name part := by
  have hiff := @lowercase_infix_iff front.toList part.toList back.toList
  rw [← String.toList_append, ← String.toList_append, ← matchesQuery_iff_infix] at hiff
  refine ⟨hiff, fun hsigma => hiff.mpr (.inl (sameWordEnds_of_notMem hsigma)), fun name => ?_⟩
  rw [Bool.eq_iff_iff, matchesQuery_iff_infix, matchesQuery_iff_infix, String.toList_ofList,
    lowercase_lowercase]

/-- A dotted capital I has two characters in lowercase. -/
theorem part_found_istanbul : 'Σ' ∉ "İST".toList ∧ matchesQuery "ΟΔΟΣ İSTANBUL" "İST" = true := by
  have hsigma : 'Σ' ∉ "İST".toList := by decide +kernel
  exact ⟨hsigma, (part_found_iff "ΟΔΟΣ " "İST" "ANBUL").2.1 hsigma⟩

/-- A capital sigma at the end of a name is not found by itself: the name has its final form. -/
theorem part_not_found : ¬ ∀ front part back : String,
    matchesQuery (front ++ part ++ back) part = true := by
  intro h
  exact absurd (h "ΟΔΟ" "Σ" "") (by decide +kernel)

/-! ### All symbols -/

lemma Symbol.hits_eq (s : Symbol) : s.hits uri container =
    ⟨s.name, s.kind, uri, s.range, container⟩ :: hitsIn uri (some s.name) s.children := by
  cases s
  rfl

lemma hitsIn_eq_flatMap :
    hitsIn uri container outline = outline.flatMap (·.hits uri container) := by
  induction outline with
  | nil => rfl
  | cons s ss ih => rw [hitsIn, ih, List.flatMap_cons]

/-- The name of the symbol around a place, where `container` is around the whole outline. -/
def containerAt? (container : Option String) (outline : List Symbol) (place : List Nat) :
    Option String :=
  if place.dropLast = [] then container else (symbolAt? outline place.dropLast).map (·.name)

lemma containerAt?_none :
    containerAt? none outline place = (symbolAt? outline place.dropLast).map (·.name) := by
  unfold containerAt?
  split
  · next h => rw [h]; rfl
  · rfl

lemma symbolAt?_cons {i : Nat} (hplace : place ≠ []) :
    symbolAt? outline (i :: place) = outline[i]?.bind fun s => symbolAt? s.children place := by
  cases place with
  | nil => exact absurd rfl hplace
  | cons j place => rfl

/-- What is around a place below a symbol is around it in the outline that has the symbol. -/
lemma containerAt?_cons {i : Nat} {s : Symbol} (hs : outline[i]? = some s) (hplace : place ≠ []) :
    containerAt? container outline (i :: place) = containerAt? (some s.name) s.children place := by
  unfold containerAt?
  rw [List.dropLast_cons_of_ne_nil hplace, if_neg (List.cons_ne_nil _ _)]
  split
  · next h => rw [h, symbolAt?, hs]; rfl
  · next h => rw [symbolAt?_cons h, hs, Option.bind_some]

/-- The hit at a place, where `container` is around the whole outline. -/
def HitIn (uri : Uri) (container : Option String) (outline : List Symbol) (place : List Nat)
    (hit : Hit) : Prop :=
  ∃ s, symbolAt? outline place = some s ∧
    hit = ⟨s.name, s.kind, uri, s.range, containerAt? container outline place⟩

/-- The places of an outline are the symbols in it and the places below them. -/
lemma hitIn_iff : HitIn uri container outline place hit ↔
    ∃ i s q, outline[i]? = some s ∧ place = i :: q ∧
      (q = [] ∧ hit = ⟨s.name, s.kind, uri, s.range, container⟩ ∨
        HitIn uri (some s.name) s.children q hit) := by
  constructor
  · rintro ⟨t, ht, rfl⟩
    match place, ht with
    | [i], ht => exact ⟨i, t, [], ht, rfl, .inl ⟨rfl, rfl⟩⟩
    | i :: j :: q, ht =>
      obtain ⟨s, hs, hbelow⟩ := Option.bind_eq_some_iff.mp ht
      refine ⟨i, s, j :: q, hs, rfl, .inr ⟨t, hbelow, ?_⟩⟩
      rw [containerAt?_cons hs (List.cons_ne_nil _ _)]
  · rintro ⟨i, s, q, hs, rfl, ⟨rfl, rfl⟩ | ⟨t, ht, rfl⟩⟩
    · exact ⟨s, hs, rfl⟩
    · have hq : q ≠ [] := by
        rintro rfl
        cases ht
      exact ⟨t, by rw [symbolAt?_cons hq, hs, Option.bind_some, ht],
        by rw [containerAt?_cons hs hq]⟩

lemma enumerates_hitsIn (uri : Uri) (container : Option String) (outline : List Symbol) :
    Enumerates (HitIn uri container outline) (hitsIn uri container outline) := by
  rw [hitsIn_eq_flatMap]
  refine (Enumerates.flatMap fun s hs => ?_).congr fun place x => hitIn_iff.symm
  have hchildren := enumerates_hitsIn uri (some s.name) s.children
  rw [s.hits_eq]
  -- a symbol stands in front of what is below it
  refine (Enumerates.single [] _).append hchildren ?_
  rintro _ q _ y ⟨rfl, -⟩ ⟨t, ht, -⟩
  cases q with
  | nil => cases ht
  | cons i q => exact List.nil_lt_cons i q
termination_by sizeOf outline
decreasing_by
  have hlt := List.sizeOf_lt_of_mem hs
  cases s
  simp only [Symbol.mk.sizeOf_spec] at hlt ⊢
  omega

/-- A flat outline has a hit for each place, in their order. -/
theorem enumerates_flatten (uri : Uri) (outline : List Symbol) :
    Enumerates (HitAt uri outline) (flatten uri outline) := by
  refine (enumerates_hitsIn uri none outline).congr fun place hit => ?_
  unfold HitIn HitAt
  simp only [containerAt?_none]

/-- A search finds the hits that match, in the order of their places. -/
theorem enumerates_search (uri : Uri) (query : String) (outline : List Symbol) :
    Enumerates (fun place hit => HitAt uri outline place hit ∧ hit.Matches query)
      (search uri query outline) :=
  ((enumerates_flatten uri outline).filter _).congr fun _ _ => and_congr_right' matchesQuery_iff

end Contracts
