import Contracts.Editor.Outline
import Contracts.Proofs.Source.Extent

/-!
The outline of a tree, as ranges that lie in each other.

The locations of a tree nest by their bytes. Every one of them has the positions of its two ends,
so what is in order by bytes is in order by positions, and the ranges of the outline nest as well.
Editors are told no greater line than the last one that 32 bits can hold. Places behind that line
all seem to be on it, where their characters are not in order any more.
-/

namespace Contracts

variable {cs : List Char} {m n : Nat} {p q : Position} {t : Tree}

/-! ### The order of points -/

/-- One point is not behind another one, by their lines first and then by their characters. -/
def Point.Le (p q : Point) : Prop :=
  p.line < q.line ∨ p.line = q.line ∧ p.character ≤ q.character

/-- One point is not behind another one as far as can be told: of two points on the greatest line
neither is behind the other. -/
def Point.NotBehind (p q : Point) : Prop :=
  p.line < q.line ∨ p.line = q.line ∧ (p.character ≤ q.character ∨ p.line = editorLimit)

lemma IsPlace.notBehind (hp : IsPlace cs m p) (hq : IsPlace cs n q) (h : m ≤ n) :
    p.point.NotBehind q.point := by
  have horder := hp.le hq h
  have hline := hp.line_mem
  unfold Position.Le at horder
  simp only [Point.NotBehind, Position.point, editorLimit]
  omega

/-- Where every line of the text can be told, nothing is lost. -/
lemma IsPlace.point_le (hcount : cs.count '\n' ≤ editorLimit) (hp : IsPlace cs m p)
    (hq : IsPlace cs n q) (h : m ≤ n) : p.point.Le q.point := by
  have horder := hp.le hq h
  have hlineP := hp.line_mem
  have hlineQ := hq.line_mem
  unfold Position.Le at horder
  simp only [Point.Le, Position.point, editorLimit] at hcount ⊢
  omega

/-! ### Symbols -/

namespace Symbol

/-- Symbols side by side, one behind the other, each selected as a whole and with its children
inside it in the same way. Points are compared by `r`. -/
inductive Nested (r : Point → Point → Prop) : List Symbol → Prop
  | mk {symbols : List Symbol}
    (ordered : symbols.Pairwise fun a b => r a.range.stop b.range.start)
    (selection : ∀ s ∈ symbols, s.selection = s.range)
    (inside : ∀ s ∈ symbols, ∀ child ∈ s.children,
      r s.range.start child.range.start ∧ r child.range.stop s.range.stop)
    (children : ∀ s ∈ symbols, Nested r s.children) : Nested r symbols

variable {r : Point → Point → Prop} {symbols : List Symbol}

lemma nested_nil : Nested r [] := by
  refine .mk .nil ?_ ?_ ?_ <;> exact fun s hs => absurd hs List.not_mem_nil

lemma nested_leaves (hordered : symbols.Pairwise fun a b => r a.range.stop b.range.start)
    (hleaf : ∀ s ∈ symbols, s.selection = s.range ∧ s.children = []) : Nested r symbols := by
  refine .mk hordered (fun s hs => (hleaf s hs).1) (fun s hs child hchild => ?_) fun s hs => ?_
  · rw [(hleaf s hs).2] at hchild
    cases hchild
  · rw [(hleaf s hs).2]
    exact nested_nil

lemma nested_whole {name : String} {detail : Option String} {kind : SymbolKind} {range : Range}
    (hchildren : Nested r symbols)
    (hinside : ∀ child ∈ symbols, r range.start child.range.start ∧ r child.range.stop range.stop) :
    Nested r [whole name detail kind range symbols] := by
  refine .mk (List.pairwise_singleton _ _) ?_ ?_ ?_ <;> intro s hs <;>
    obtain rfl := List.mem_singleton.mp hs
  · rfl
  · exact hinside
  · exact hchildren

end Symbol

namespace Tree

lemma leaf_of_mem {s : Symbol} (hs : s ∈ t.definitionSymbols) :
    s.selection = s.range ∧ s.children = [] := by
  cases t with
  | profile p =>
    obtain ⟨d, -, rfl⟩ := List.mem_map.mp hs
    exact ⟨rfl, rfl⟩
  | map m =>
    obtain ⟨d, -, rfl⟩ := List.mem_map.mp hs
    exact ⟨rfl, rfl⟩

/-- The symbols of the definitions have their ranges. -/
lemma range_definitionSymbols :
    t.definitionSymbols.map Symbol.range = (t.parts.map Part.location).map Location.range := by
  cases t with
  | profile p =>
    simp only [definitionSymbols, parts, List.map_map]
    rfl
  | map m =>
    simp only [definitionSymbols, parts, List.map_map]
    rfl

lemma pairwise_definitionSymbols {R : Range → Range → Prop} :
    (t.definitionSymbols.Pairwise fun a b => R a.range b.range) ↔
      (t.parts.map Part.location).Pairwise fun a b => R a.range b.range := by
  rw [← List.pairwise_map (f := Symbol.range) (R := R), range_definitionSymbols, List.pairwise_map]

lemma exists_location_of_mem {s : Symbol} (hs : s ∈ t.definitionSymbols) :
    ∃ l ∈ t.parts.map Part.location, l.range = s.range := by
  have hrange := List.mem_map_of_mem (f := Symbol.range) hs
  rw [range_definitionSymbols] at hrange
  exact List.mem_map.mp hrange

section Order

variable {r : Point → Point → Prop} (h : t.Nests cs)
  (hr : ∀ {m n p q}, IsPlace cs m p → IsPlace cs n q → m ≤ n → r p.point q.point)

include h in
lemma Nests.isPlace {l : Location} (hl : l ∈ t.sections) :
    IsPlace cs l.span.start l.start ∧ IsPlace cs l.span.stop l.stop :=
  h.places l (List.mem_cons_of_mem _ (List.mem_append_left _ hl))

include h hr in
lemma Nests.symbols_ordered :
    t.definitionSymbols.Pairwise fun a b => r a.range.stop b.range.start := by
  refine (pairwise_definitionSymbols (R := fun a b => r a.stop b.start)).mpr ?_
  refine (List.pairwise_cons.mp h.increasing).2.imp_of_mem fun ha hb hab => ?_
  exact hr (h.isPlace (List.mem_cons_of_mem _ ha)).2 (h.isPlace (List.mem_cons_of_mem _ hb)).1 hab

include h hr in
lemma Nests.symbol_inside {s : Symbol} (hs : s ∈ t.definitionSymbols) :
    r t.headerLocation.start.point s.range.start ∧ r s.range.stop t.location.stop.point := by
  obtain ⟨l, hl, hrange⟩ := exists_location_of_mem hs
  have hsection : l ∈ t.sections := List.mem_cons_of_mem _ hl
  obtain ⟨hstart, hstop⟩ := h.isPlace hsection
  obtain ⟨hfirst, hlast⟩ := h.inside l hsection
  rw [h.start_eq] at hfirst
  rw [← hrange]
  exact ⟨hr (h.isPlace List.mem_cons_self).1 hstart hfirst,
    hr hstop (h.places t.location List.mem_cons_self).2 hlast⟩

include h hr in
/-- Whatever order of points follows the order of places, an outline nests in it. -/
lemma Nests.outline (fileName : String) : Symbol.Nested r (t.outline fileName) := by
  obtain ⟨hstart, hstop⟩ := h.places t.location List.mem_cons_self
  have hdefinitions : Symbol.Nested r t.definitionSymbols :=
    Symbol.nested_leaves (h.symbols_ordered hr) fun s hs => leaf_of_mem hs
  have hspace : Symbol.Nested r [Symbol.whole t.namespaceKey none .space
      ⟨t.headerLocation.start.point, t.location.stop.point⟩ t.definitionSymbols] :=
    Symbol.nested_whole hdefinitions fun s hs => h.symbol_inside hr hs
  refine Symbol.nested_whole hspace fun child hchild => ?_
  obtain rfl := List.mem_singleton.mp hchild
  exact ⟨hr hstart (h.isPlace List.mem_cons_self).1 h.start_eq.le, hr hstop hstop le_rfl⟩

end Order

end Tree

/-- **Nesting.** In every text that is read as a tree the document begins where its header does and
ends where the text does. The header and the definitions stand in it one behind the other, and so do
the calls in each definition. The ranges of the outline nest in the same way. This is said of points
by their lines and characters where every line of the text can be told, and of points as far as they
can be told for all other texts. -/
theorem locations_and_outline_nest (kind : Kind) (text : String) (t : Tree)
    (h : readTree kind text = .ok t) : t.Nests text.toList ∧ ∀ fileName,
      Symbol.Nested Point.NotBehind (t.outline fileName) ∧
      (text.toList.count '\n' ≤ editorLimit → Symbol.Nested Point.Le (t.outline fileName)) := by
  obtain ⟨c, c₁, c', hstands⟩ := stands_of_readTree h
  have hnests := hstands.nests
  refine ⟨hnests, fun fileName => ⟨?_, fun hcount => ?_⟩⟩
  · exact hnests.outline (fun hp hq hle => hp.notBehind hq hle) fileName
  · exact hnests.outline (fun hp hq hle => hp.point_le hcount hq hle) fileName

/-- A map with a title, with calls inside each other's bodies, and with an operation. -/
def nestingText : String :=
  "// é\nprofile = \"weather@1.0\"\nprovider = \"p\"\n\"Title\" map Get \x7b\n" ++
    "  call One \x7b call Two \x7d\n\x7d\noperation One \x7b\x7d\n"

/-- The ranges of an outline: of the file, of the namespace in it, and of the definitions. -/
def Symbol.ranges (outline : List Symbol) : List (Range × List (Range × List Range)) :=
  outline.map fun file =>
    (file.range, file.children.map fun space => (space.range, space.children.map Symbol.range))

/-- The file and the namespace have all of the map from its header on, and the two definitions stand
in it one behind the other. -/
theorem map_nests : ∃ t, readTree .map nestingText = .ok t ∧ t.Nests nestingText.toList ∧
    t.parts.map (fun part => part.calls.map Location.span) = [[⟨65, 73⟩, ⟨76, 84⟩], []] ∧
    Symbol.Nested Point.Le (t.outline "weather") ∧
    Symbol.ranges (t.outline "weather") = [(⟨⟨1, 0⟩, ⟨7, 0⟩⟩, [(⟨⟨1, 0⟩, ⟨7, 0⟩⟩,
      [⟨⟨3, 0⟩, ⟨5, 1⟩⟩, ⟨⟨6, 0⟩, ⟨6, 16⟩⟩])])] := by
  have hread : (match readTree .map nestingText with
      | .ok t => (t.parts.map fun part => part.calls.map Location.span,
          Symbol.ranges (t.outline "weather"))
      | .error _ => ([], [])) = ([[⟨65, 73⟩, ⟨76, 84⟩], []], [(⟨⟨1, 0⟩, ⟨7, 0⟩⟩,
        [(⟨⟨1, 0⟩, ⟨7, 0⟩⟩, [⟨⟨3, 0⟩, ⟨5, 1⟩⟩, ⟨⟨6, 0⟩, ⟨6, 16⟩⟩])])]) := by decide +kernel
  cases ht : readTree .map nestingText with
  | error e =>
    rw [ht] at hread
    cases hread
  | ok t =>
    rw [ht] at hread
    obtain ⟨hcalls, hranges⟩ := Prod.mk.inj hread
    obtain ⟨hnests, houtline⟩ := locations_and_outline_nest .map nestingText t ht
    exact ⟨t, rfl, hnests, hcalls, (houtline "weather").2 (by decide), hranges⟩

end Contracts
