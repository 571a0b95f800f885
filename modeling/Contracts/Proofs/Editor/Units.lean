import Contracts.Proofs.Editor.Edit

/-!
Editors that count characters in units of 16 bits.

Unless they agree with a server on something else, editors count a line in the units of UTF-16, of
which characters beyond the first 65536 take up two. Points count characters. On a line without such
characters in front of a place both counts are the same; with one, the point of the place is too far
to the right, which does no harm only at the end of the line.
-/

namespace Contracts

variable {as bs cs before after front tail body rest : List Char}

/-- The units of UTF-16 that a character takes up. -/
def units (c : Char) : Nat := if c.toNat < 0x10000 then 1 else 2

def unitLength : List Char → Nat
  | [] => 0
  | c :: cs => units c + unitLength cs

/-- The point behind some characters that begin at `p`, counted in units. Lines end with a line
feed, a carriage return or both. -/
def Point.behind (p : Point) : List Char → Point
  | [] => p
  | c :: cs =>
    if c = '\n' ∨ c = '\r' ∧ cs.head? ≠ some '\n' then Point.behind ⟨p.line + 1, 0⟩ cs
    else Point.behind ⟨p.line, p.character + units c⟩ cs

/-- The point of the place behind `before`, as an editor tells it. -/
def unitPoint (before : List Char) : Point := Point.behind ⟨0, 0⟩ before

/-- No carriage return ends a line alone. -/
def ReturnsFeed (cs : List Char) : Prop := ∀ rest, '\r' :: rest <:+ cs → rest.head? = some '\n'

/-- A place between `before` and `after` that is not inside a line end, in a text with lines that
end with a line feed or with both. -/
structure Addressable (before after : List Char) : Prop where
  returns : ReturnsFeed (before ++ after)
  whole : before.getLast? ≠ some '\r'

/-- A place at which a line ends. -/
def EndsLine (after : List Char) : Prop :=
  after = [] ∨ ['\n'] <+: after ∨ ['\r', '\n'] <+: after

/-- No character of two units stands in front of the place on its line, or the place is the end of
the line. -/
structure Plain (before after : List Char) : Prop extends Addressable before after where
  single : (∀ c ∈ before.reverse.takeWhile (· != '\n'), units c = 1) ∨ EndsLine after

lemma returnsFeed_nil : ReturnsFeed [] := fun rest h => by cases List.suffix_nil.mp h

lemma returnsFeed_cons {c : Char} :
    ReturnsFeed (c :: cs) ↔ (c = '\r' → cs.head? = some '\n') ∧ ReturnsFeed cs := by
  constructor
  · refine fun h => ⟨?_, fun rest hrest => h rest (hrest.trans (List.suffix_cons c cs))⟩
    rintro rfl
    exact h cs List.suffix_rfl
  · rintro ⟨hfirst, hmore⟩ rest hrest
    rcases List.suffix_cons_iff.mp hrest with heq | hrest
    · cases heq
      exact hfirst rfl
    · exact hmore rest hrest

instance decidableReturnsFeed : (cs : List Char) → Decidable (ReturnsFeed cs)
  | [] => .isTrue returnsFeed_nil
  | _ :: cs =>
    have := decidableReturnsFeed cs
    decidable_of_iff _ returnsFeed_cons.symm

instance (after : List Char) : Decidable (EndsLine after) :=
  inferInstanceAs (Decidable (_ ∨ _ ∨ _))

instance (before after : List Char) : Decidable (Addressable before after) :=
  decidable_of_iff (ReturnsFeed (before ++ after) ∧ before.getLast? ≠ some '\r')
    ⟨fun h => ⟨h.1, h.2⟩, fun h => ⟨h.returns, h.whole⟩⟩

instance (before after : List Char) : Decidable (Plain before after) :=
  -- by the characters of the line, not by all that there are
  have : Decidable (∀ c ∈ before.reverse.takeWhile (· != '\n'), units c = 1) :=
    List.decidableBAll _ _
  decidable_of_iff (Addressable before after ∧
      ((∀ c ∈ before.reverse.takeWhile (· != '\n'), units c = 1) ∨ EndsLine after))
    ⟨fun h => ⟨h.1, h.2⟩, fun h => ⟨h.toAddressable, h.single⟩⟩

/-! ### Counting in units -/

@[simp] lemma unitLength_nil : unitLength [] = 0 := rfl

@[simp] lemma unitLength_cons (c : Char) (cs : List Char) :
    unitLength (c :: cs) = units c + unitLength cs := rfl

lemma units_pos (c : Char) : 1 ≤ units c := by
  unfold units
  split <;> omega

lemma length_le_unitLength (cs : List Char) : cs.length ≤ unitLength cs := by
  induction cs with
  | nil => exact Nat.le_refl _
  | cons c cs ih =>
    have := units_pos c
    rw [List.length_cons, unitLength_cons]
    omega

lemma unitLength_eq_length_iff : unitLength cs = cs.length ↔ ∀ c ∈ cs, units c = 1 := by
  induction cs with
  | nil => simp
  | cons c cs ih =>
    have hpos := units_pos c
    have hle := length_le_unitLength cs
    rw [List.forall_mem_cons, ← ih, unitLength_cons, List.length_cons]
    omega

lemma behind_line (p : Point) (h : ∀ c ∈ cs, c ≠ '\n' ∧ c ≠ '\r') :
    p.behind cs = ⟨p.line, p.character + unitLength cs⟩ := by
  induction cs generalizing p with
  | nil => rfl
  | cons c cs ih =>
    obtain ⟨hfeed, hreturn⟩ := h c List.mem_cons_self
    have hno : ¬ (c = '\n' ∨ c = '\r' ∧ cs.head? ≠ some '\n') := fun h =>
      h.elim hfeed fun h => hreturn h.1
    rw [Point.behind, if_neg hno, ih _ fun x hx => h x (List.mem_cons_of_mem c hx), unitLength_cons,
      Nat.add_assoc]

lemma ReturnsFeed.left (h : ReturnsFeed (as ++ bs)) (hlast : as.getLast? ≠ some '\r') :
    ReturnsFeed as := by
  rintro rest ⟨more, rfl⟩
  have hhead := h (rest ++ bs) ⟨more, by simp⟩
  cases rest with
  | nil => exact absurd List.getLast?_concat hlast
  | cons c rest => exact hhead

/-- Behind whole lines only their number counts. -/
lemma behind_front (p : Point) (hreturns : ReturnsFeed front) (hfront : ['\n'] <:+ front) :
    p.behind (front ++ tail) = Point.behind ⟨p.line + front.count '\n', 0⟩ tail := by
  induction front generalizing p with
  | nil => simp at hfront
  | cons c front ih =>
    rw [List.cons_append, Point.behind]
    by_cases hc : c = '\n'
    · subst hc
      rw [if_pos (.inl rfl), List.count_cons_self]
      rcases List.suffix_cons_iff.mp hfront with hone | hmore
      · obtain rfl := (List.cons.inj hone).2
        rfl
      · rw [ih _ (returnsFeed_cons.mp hreturns).2 hmore, Nat.add_assoc, Nat.add_comm 1]
    · have hmore := (List.suffix_cons_iff.mp hfront).resolve_left
        fun hone => hc (List.cons.inj hone).1.symm
      have hno : ¬ (c = '\n' ∨ c = '\r' ∧ (front ++ tail).head? ≠ some '\n') := by
        rintro (hfeed | ⟨rfl, hhead⟩)
        · exact hc hfeed
        · rw [List.head?_append, hreturns front List.suffix_rfl] at hhead
          exact hhead rfl
      rw [if_neg hno, ih _ (returnsFeed_cons.mp hreturns).2 hmore, List.count_cons_of_ne hc]

lemma unitPoint_lastLine (hreturns : ReturnsFeed (front ++ tail))
    (hfront : front = [] ∨ ['\n'] <:+ front) (htail : '\n' ∉ tail) :
    unitPoint (front ++ tail) = ⟨front.count '\n', unitLength tail⟩ := by
  have hline : ∀ c ∈ tail, c ≠ '\n' ∧ c ≠ '\r' := by
    refine fun c hc => ⟨fun h => htail (h ▸ hc), ?_⟩
    rintro rfl
    obtain ⟨seen, rest, rfl⟩ := List.append_of_mem hc
    have hhead := hreturns rest ⟨front ++ seen, by simp⟩
    exact htail (List.mem_append_right _ (List.mem_cons_of_mem _ (List.mem_of_head? hhead)))
  rw [unitPoint]
  rcases hfront with rfl | hfront
  · rw [List.nil_append, behind_line _ hline, Nat.zero_add]
    rfl
  · have hlast : front.getLast? ≠ some '\r' := by
      obtain ⟨lines, rfl⟩ := hfront
      rw [List.getLast?_concat]
      decide
    rw [behind_front _ (hreturns.left hlast) hfront, behind_line _ hline, Nat.zero_add,
      Nat.zero_add]

/-! ### Places -/

lemma endsLine_iff (h : Addressable before after) (hline : before = front ++ tail)
    (htail : '\n' ∉ tail) (heq : tail ++ after = body ++ rest)
    (hbody : '\n' ∉ body) (hend : LineEnd body rest) :
    EndsLine after ↔ body.length = tail.length := by
  have hlast : tail.getLast? ≠ some '\r' := by
    intro hreturn
    obtain ⟨line, rfl⟩ := List.getLast?_eq_some_iff.mp hreturn
    exact h.whole (by rw [hline, ← List.append_assoc, List.getLast?_concat])
  constructor
  · intro hends
    have hended : LineEnd tail after := by
      rcases hends with rfl | ⟨more, rfl⟩ | ⟨more, rfl⟩
      · exact .ended hlast
      · exact .feed hlast more
      · exact .returnFeed more
    have hsame : body = tail := by
      rw [← lineBody_eq hbody hend, ← heq, lineBody_eq htail hended]
    rw [hsame]
  · intro hlength
    obtain ⟨rfl, rfl⟩ := List.append_inj heq hlength.symm
    cases hend with
    | feed _ rest => exact .inr (.inl ⟨rest, rfl⟩)
    | returnFeed rest => exact .inr (.inr ⟨rest, rfl⟩)
    | ended => exact .inl rfl
    | endedReturn =>
      have hfeed := h.returns [] ⟨before, rfl⟩
      cases hfeed

/-- **Places of editors.** The point that an editor tells for a place leads to that place exactly if
the place is plain. -/
lemma index_unitPoint_iff (h : Addressable before after) :
    (unitPoint before).index (before ++ after) = before.length ↔ Plain before after := by
  obtain ⟨front, tail, body, rest, hbefore, htail, hfront, heq, hline, hle⟩ :=
    exists_line fun hsplits => h.whole hsplits.1
  have hpoint : unitPoint before = ⟨front.count '\n', unitLength tail⟩ := by
    have hreturns := h.returns.left h.whole
    rw [hbefore] at hreturns ⊢
    exact unitPoint_lastLine hreturns hfront htail
  have hlast : before.reverse.takeWhile (· != '\n') = tail.reverse := by
    rw [hbefore]
    exact lastLine_eq hfront htail
  have hends := endsLine_iff h hbefore htail heq hline.oneLine hline.ended
  have hunits := length_le_unitLength tail
  have hsingle := @unitLength_eq_length_iff tail
  have hplain : Plain before after ↔ unitLength tail = tail.length ∨ body.length = tail.length := by
    rw [← hends, hsingle]
    constructor
    · intro hp
      have := hp.single
      simpa [hlast] using this
    · intro hp
      exact ⟨h, by simpa [hlast] using hp⟩
  rw [hplain, hpoint, Point.index, index_of_line hline, hbefore, List.length_append]
  dsimp only
  omega

lemma offset_unitPoint_iff (h : Addressable before after) :
    (unitPoint before).offset (before ++ after) = byteLength before ↔ Plain before after := by
  rw [← index_unitPoint_iff h, Point.offset]
  constructor
  · intro hoffset
    have htake := List.take_prefix ((unitPoint before).index (before ++ after)) (before ++ after)
    have hprefix := prefix_of_byteLength_le htake (List.prefix_append before after) hoffset.le
    have hsame := eq_of_prefix_of_byteLength_eq hprefix hoffset
    have hle : (unitPoint before).index (before ++ after) ≤ (before ++ after).length :=
      index_le _ _ _
    have hlength := congrArg List.length hsame
    rwa [List.length_take, min_eq_left hle] at hlength
  · intro hindex
    rw [hindex, List.take_left]

/-! ### Changes -/

/-- The text of an editor and the changes that it tells, where `place` holds at both ends of every
range. A range is told by its points in the text as it is then. -/
inductive Edited (place : List Char → List Char → Prop) :
    List Char → List Edit → List Char → Prop
  | done (cs : List Char) : Edited place cs [] cs
  | range {before middle after shown : List Char} {replacement : String} {edits : List Edit}
      (hstart : place before (middle ++ after)) (hstop : place (before ++ middle) after)
      (more : Edited place (before ++ replacement.toList ++ after) edits shown) :
      Edited place (before ++ middle ++ after)
        (⟨some ⟨unitPoint before, unitPoint (before ++ middle)⟩, replacement⟩ :: edits) shown
  | whole {cs shown : List Char} {replacement : String} {edits : List Edit}
      (more : Edited place replacement.toList edits shown) :
      Edited place cs (⟨none, replacement⟩ :: edits) shown

lemma apply_between {range : Range} {middle : List Char} {replacement : String}
    (hstart : range.start.index (before ++ middle ++ after) = before.length)
    (hstop : range.stop.index (before ++ middle ++ after) = (before ++ middle).length) :
    Edit.apply ⟨some range, replacement⟩ (before ++ middle ++ after) =
      before ++ replacement.toList ++ after := by
  have hmax : max before.length (before ++ middle).length = (before ++ middle).length := by simp
  rw [Edit.apply]
  dsimp only
  rw [hstart, hstop, hmax, List.drop_left, List.append_assoc before, List.take_left]

/-- Change by change, the text that is kept is the one that the editor has. -/
lemma foldl_apply_of_edited {edits : List Edit} {shown : List Char}
    (h : Edited Plain cs edits shown) : edits.foldl (fun cs e => e.apply cs) cs = shown := by
  induction h with
  | done => rfl
  | @range before middle after shown replacement edits hstart hstop _ ih =>
    have hindexStart := (index_unitPoint_iff hstart.toAddressable).mpr hstart
    have hindexStop := (index_unitPoint_iff hstop.toAddressable).mpr hstop
    rw [← List.append_assoc] at hindexStart
    rw [List.foldl_cons, apply_between hindexStart hindexStop, ih]
  | whole _ ih =>
    rw [List.foldl_cons]
    exact ih

lemma applyEdits_of_edited {text : String} {edits : List Edit} {shown : List Char}
    (h : Edited Plain text.toList edits shown) : applyEdits text edits = String.ofList shown := by
  rw [applyEdits, foldl_apply_of_edited h]

end Contracts
