import Mathlib.Order.Bounds.Defs
import Contracts.Proofs.Editor.Range

/-!
The position of any byte offset against a plain count.

A position is looked up in the table of the offsets at which lines start. These are places of the
text, and so are the ends of characters. An offset inside a character has the same places in front
of it as the start of that character, and an offset past the end has those of the end. So neither
the line that is found nor the characters that are counted along it tell them apart, and between two
characters the look-up is known to be the count.
-/

namespace Contracts

variable {cs as bs before after front : List Char} {m n i offset start : Nat} {l : Line}

/-! ### Searching in a sorted list -/

/-- What a search for `n` in a sorted list may answer: a place where it stands, or the place where
it would have to be inserted. -/
inductive Searched (ns : List Nat) (n : Nat) : Except Nat Nat → Prop
  | hit {i : Nat} (here : ns[i]? = some n) : Searched ns n (.ok i)
  | miss {i : Nat} (hi : i ≤ ns.length) (smaller : ∀ m ∈ ns.take i, m < n)
      (greater : ∀ m ∈ ns.drop i, n < m) : Searched ns n (.error i)

/-- How many members are not greater than `n`, by the answer of a search for it. -/
def countOf : Except Nat Nat → Nat
  | .ok i => i + 1
  | .error i => i

lemma takeWhile_le_eq_take {ns : List Nat} (hsmaller : ∀ m ∈ ns.take i, m ≤ n)
    (hgreater : ∀ m ∈ ns.drop i, n < m) : ns.takeWhile (· ≤ n) = ns.take i := by
  have hbehind : (ns.drop i).takeWhile (· ≤ n) = [] := by
    cases hdrop : ns.drop i with
    | nil => rfl
    | cons m ms =>
      have hm : n < m := hgreater m (by rw [hdrop]; exact List.mem_cons_self)
      exact List.takeWhile_cons_of_neg (by simpa using hm)
  calc ns.takeWhile (· ≤ n) = (ns.take i ++ ns.drop i).takeWhile (· ≤ n) := by
        rw [List.take_append_drop]
    _ = ns.take i ++ (ns.drop i).takeWhile (· ≤ n) :=
        List.takeWhile_append_of_pos (by simpa using hsmaller)
    _ = ns.take i := by rw [hbehind, List.append_nil]

/-- Every answer that a search may give tells the same count. -/
lemma Searched.length_takeWhile {ns : List Nat} {answer : Except Nat Nat}
    (hsorted : ns.Pairwise (· < ·)) (h : Searched ns n answer) :
    (ns.takeWhile (· ≤ n)).length = countOf answer := by
  cases h with
  | @hit i here =>
    obtain ⟨hi, rfl⟩ := List.getElem?_eq_some_iff.mp here
    rw [List.pairwise_iff_getElem] at hsorted
    have hcut : ns.takeWhile (· ≤ ns[i]) = ns.take (i + 1) := by
      refine takeWhile_le_eq_take (fun m hm => ?_) fun m hm => ?_
      · obtain ⟨j, hj, rfl⟩ := List.mem_take_iff_getElem.mp hm
        have hj' : j < i ∨ j = i := by omega
        rcases hj' with hlt | rfl
        · exact (hsorted j i _ hi hlt).le
        · exact le_rfl
      · obtain ⟨j, hj, rfl⟩ := List.mem_drop_iff_getElem.mp hm
        exact hsorted i _ hi _ (by omega)
    rw [hcut, List.length_take_of_le hi]
    rfl
  | @miss i hi smaller greater =>
    rw [takeWhile_le_eq_take (fun m hm => (smaller m hm).le) greater, List.length_take_of_le hi]
    rfl

lemma exists_searched {ns : List Nat} (hsorted : ns.Pairwise (· < ·)) (n : Nat) :
    ∃ answer, Searched ns n answer := by
  induction ns with
  | nil => exact ⟨_, .miss le_rfl (by simp) (by simp)⟩
  | cons m ms ih =>
    obtain ⟨hm, hms⟩ := List.pairwise_cons.mp hsorted
    rcases lt_trichotomy n m with hlt | rfl | hlt
    · refine ⟨.error 0, .miss (Nat.zero_le _) (by simp) fun k hk => ?_⟩
      rcases List.mem_cons.mp hk with rfl | hk
      · exact hlt
      · exact hlt.trans (hm k hk)
    · exact ⟨.ok 0, .hit rfl⟩
    · obtain ⟨answer, here | ⟨hi, smaller, greater⟩⟩ := ih hms
      · exact ⟨_, .hit (List.getElem?_cons_succ.trans here)⟩
      · refine ⟨_, .miss (Nat.succ_le_succ hi) (fun k hk => ?_) greater⟩
        rcases List.mem_cons.mp hk with rfl | hk
        · exact hlt
        · exact smaller k hk

/-! ### Where lines start -/

/-- The offsets at which the lines of a text start, in order. -/
def Lines.starts (lines : Lines) : List Nat := (lines.first :: lines.others).map Line.start

/-- A byte offset at the start of a text or behind a line feed of it. -/
def IsLineStart (cs : List Char) (offset : Nat) : Prop :=
  ∃ front, front <+: cs ∧ (front = [] ∨ ['\n'] <:+ front) ∧ byteLength front = offset

lemma lt_of_mem_starts (h : m ∈ (linesFrom n as).map Line.start) : n < m := by
  obtain ⟨l, hl, rfl⟩ := List.mem_map.mp h
  exact lt_start_of_mem hl

lemma pairwise_linesFrom : ((linesFrom n as).map Line.start).Pairwise (· < ·) := by
  induction as generalizing n with
  | nil => exact .nil
  | cons a as ih =>
    unfold linesFrom
    split
    · exact List.pairwise_cons.mpr ⟨fun _ => lt_of_mem_starts, ih⟩
    · exact ih

lemma pairwise_starts : (Lines.ofText cs).starts.Pairwise (· < ·) :=
  List.pairwise_cons.mpr ⟨fun _ => lt_of_mem_starts, pairwise_linesFrom⟩

lemma exists_front_of_mem (h : l ∈ linesFrom n as) : ∃ front,
    as = front ++ '\n' :: l.rest ∧ l.start = n + byteLength (front ++ ['\n']) := by
  induction as generalizing n with
  | nil => cases h
  | cons a as ih =>
    unfold linesFrom at h
    split at h
    · next ha =>
      subst ha
      rcases List.mem_cons.mp h with rfl | h
      · exact ⟨[], rfl, rfl⟩
      · obtain ⟨front, rfl, hstart⟩ := ih h
        refine ⟨'\n' :: front, rfl, ?_⟩
        rw [hstart, List.cons_append, byteLength_cons, Nat.add_assoc]
        rfl
    · obtain ⟨front, rfl, hstart⟩ := ih h
      refine ⟨a :: front, rfl, ?_⟩
      rw [hstart, List.cons_append, byteLength_cons, Nat.add_assoc]

/-- As many line feeds are in front of a line as its number tells. -/
lemma getElem?_linesFrom (as bs : List Char) : (linesFrom n (as ++ '\n' :: bs))[as.count '\n']? =
    some ⟨n + byteLength (as ++ ['\n']), bs⟩ := by
  induction as generalizing n with
  | nil => rfl
  | cons a as ih =>
    rw [List.cons_append, linesFrom, List.cons_append, byteLength_cons, ← Nat.add_assoc]
    split
    · next ha =>
      subst ha
      rw [List.count_cons_self, List.getElem?_cons_succ, ih]
      rfl
    · next ha => rw [List.count_cons_of_ne ha, ih]

lemma getElem?_starts (hfront : front = [] ∨ ['\n'] <:+ front) :
    (Lines.ofText (front ++ bs)).starts[front.count '\n']? = some (byteLength front) := by
  rcases hfront with rfl | ⟨lines, rfl⟩
  · rfl
  · have hline := getElem?_linesFrom (n := 0) lines bs
    rw [List.count_append, List.count_singleton_self, List.append_assoc, List.singleton_append]
    refine List.getElem?_cons_succ.trans ?_
    rw [List.getElem?_map]
    show (linesFrom 0 (lines ++ '\n' :: bs))[_]?.map Line.start = _
    rw [hline, Nat.zero_add]
    rfl

lemma mem_starts_iff : n ∈ (Lines.ofText cs).starts ↔ IsLineStart cs n := by
  constructor
  · intro h
    rcases List.mem_cons.mp h with rfl | h
    · exact ⟨[], List.nil_prefix, .inl rfl, rfl⟩
    · obtain ⟨l, hl, rfl⟩ := List.mem_map.mp h
      obtain ⟨front, rfl, hstart⟩ := exists_front_of_mem hl
      exact ⟨front ++ ['\n'], ⟨l.rest, by simp⟩, .inr ⟨front, rfl⟩, by rw [hstart, Nat.zero_add]⟩
  · rintro ⟨front, ⟨rest, rfl⟩, hfront, rfl⟩
    exact List.mem_of_getElem? (getElem?_starts hfront)

/-! ### Offsets that are no places -/

/-- Two offsets with the same ends of characters in front of them. -/
def SameEnds (cs : List Char) (start m n : Nat) : Prop :=
  ∀ front, front <+: cs → (start + byteLength front ≤ m ↔ start + byteLength front ≤ n)

lemma charsBefore_congr (h : SameEnds cs start m n) :
    charsBefore m start cs = charsBefore n start cs := by
  induction cs generalizing start with
  | nil => rfl
  | cons c cs ih =>
    have hc : start + c.utf8Size ≤ m ↔ start + c.utf8Size ≤ n :=
      h [c] (List.cons_prefix_cons.mpr ⟨rfl, List.nil_prefix⟩)
    have hcs : SameEnds cs (start + c.utf8Size) m n := fun front hfront => by
      have := h (c :: front) (List.cons_prefix_cons.mpr ⟨rfl, hfront⟩)
      rwa [byteLength_cons, ← Nat.add_assoc] at this
    simp only [charsBefore, hc, ih hcs]

lemma takeWhile_start_congr {ls : List Line} (h : ∀ l ∈ ls, l.start ≤ m ↔ l.start ≤ n) :
    ls.takeWhile (·.start ≤ m) = ls.takeWhile (·.start ≤ n) := by
  induction ls with
  | nil => rfl
  | cons l ls ih =>
    have hl : l.start ≤ m ↔ l.start ≤ n := h l List.mem_cons_self
    simp only [List.takeWhile_cons, hl, ih fun l hl => h l (List.mem_cons_of_mem _ hl)]

/-- A line of a text begins at a place of it. -/
lemma Lines.exists_front (h : l ∈ (Lines.ofText cs).first :: (Lines.ofText cs).others) :
    ∃ front, cs = front ++ l.rest ∧ l.start = byteLength front := by
  rcases List.mem_cons.mp h with rfl | h
  · exact ⟨[], rfl, rfl⟩
  · obtain ⟨front, rfl, hstart⟩ := exists_front_of_mem h
    exact ⟨front ++ ['\n'], by simp, by rw [hstart, Nat.zero_add]⟩

lemma Lines.line_mem (lines : Lines) (offset : Nat) :
    (lines.upTo offset).getLastD lines.first ∈ lines.first :: lines.others :=
  List.cons_subset_cons _ (List.takeWhile_sublist _).subset (List.getLastD_mem_cons ..)

lemma SameEnds.behind (h : SameEnds (front ++ bs) 0 m n) : SameEnds bs (byteLength front) m n :=
  fun more hmore => by
    simpa using h (front ++ more) ((List.prefix_append_right_inj front).mpr hmore)

/-- Looking up tells no two offsets apart that have the same places in front of them. -/
lemma position_congr (h : SameEnds cs 0 m n) :
    (Lines.ofText cs).position m = (Lines.ofText cs).position n := by
  have hupTo : (Lines.ofText cs).upTo m = (Lines.ofText cs).upTo n := by
    refine takeWhile_start_congr fun l hl => ?_
    obtain ⟨front, hcut, hstart⟩ := Lines.exists_front (List.mem_cons_of_mem _ hl)
    have hends := h front ⟨l.rest, hcut.symm⟩
    rwa [Nat.zero_add, ← hstart] at hends
  unfold Lines.position
  dsimp only
  rw [hupTo]
  obtain ⟨front, hcut, hstart⟩ := Lines.exists_front ((Lines.ofText cs).line_mem n)
  rw [hcut] at h
  rw [hstart, charsBefore_congr h.behind]

/-- An offset falls behind the first part of a text, and not behind the next character. -/
structure FallsBehind (before after : List Char) (offset : Nat) : Prop where
  le : byteLength before ≤ offset
  lt : ∀ c ∈ after.head?, offset < byteLength before + c.utf8Size

lemma exists_fallsBehind (cs : List Char) (offset : Nat) :
    ∃ before after, cs = before ++ after ∧ FallsBehind before after offset := by
  induction cs generalizing offset with
  | nil => exact ⟨[], [], rfl, Nat.zero_le _, by simp⟩
  | cons c cs ih =>
    by_cases hc : c.utf8Size ≤ offset
    · obtain ⟨before, after, rfl, hle, hlt⟩ := ih (offset - c.utf8Size)
      refine ⟨c :: before, after, rfl, ?_, fun a ha => ?_⟩
      · rw [byteLength_cons]
        omega
      · have := hlt a ha
        rw [byteLength_cons]
        omega
    · refine ⟨[], c :: cs, rfl, Nat.zero_le _, fun a ha => ?_⟩
      cases ha
      simpa using hc

namespace FallsBehind

/-- Behind the first part no character ends in front of the offset. -/
lemma sameEnds (h : FallsBehind before after offset) :
    SameEnds (before ++ after) 0 offset (byteLength before) := by
  intro front hfront
  rw [Nat.zero_add]
  refine ⟨fun hend => ?_, fun hend => hend.trans h.le⟩
  have hbefore : before <+: before ++ after := List.prefix_append before after
  rcases List.prefix_or_prefix_of_prefix hfront hbefore with hshort | ⟨_ | ⟨c, more⟩, rfl⟩
  · exact byteLength_mono hshort
  · rw [List.append_nil]
  · have hc : c ∈ after.head? := by
      obtain ⟨rest, hrest⟩ := (List.prefix_append_right_inj before).mp hfront
      rw [← hrest]
      rfl
    have hlt := h.lt c hc
    rw [byteLength_append, byteLength_cons] at hend
    omega

/-- Of the places that are not behind an offset, the one that it falls behind is the last. -/
lemma isGreatest (h : FallsBehind before after offset) :
    let cs := before ++ after
    IsGreatest {n | IsBoundary cs n ∧ n ≤ min offset (byteLength cs)} (byteLength before) := by
  intro cs
  have hbefore : before <+: cs := List.prefix_append before after
  refine ⟨⟨⟨before, hbefore, rfl⟩, le_min h.le (byteLength_mono hbefore)⟩, ?_⟩
  rintro _ ⟨⟨front, hfront, rfl⟩, hoffset⟩
  have hends := h.sameEnds front hfront
  rw [Nat.zero_add] at hends
  exact hends.mp (hoffset.trans (min_le_left _ _))

end FallsBehind

/-! ### The strict order of places -/

/-- One position is in front of another one, by their lines first and then by their columns. -/
def Position.Lt (p q : Position) : Prop :=
  p.line < q.line ∨ p.line = q.line ∧ p.column < q.column

lemma Position.lt_past (p : Position) (has : as ≠ []) : p.Lt (p.past as) := by
  unfold Position.Lt Position.past
  dsimp only
  split
  · exact .inr ⟨rfl, Nat.lt_add_of_pos_right (List.length_pos_iff.mpr has)⟩
  · next hbreaks => exact .inl (Nat.lt_add_of_pos_right (Nat.pos_of_ne_zero hbreaks))

lemma IsPlace.lt_iff {p q : Position} (hp : IsPlace cs m p) (hq : IsPlace cs n q) :
    p.Lt q ↔ m < n := by
  constructor
  · intro hlt
    by_contra hle
    have hback : q.Le p := hq.le hp (Nat.le_of_not_lt hle)
    unfold Position.Lt at hlt
    unfold Position.Le at hback
    omega
  · intro hlt
    obtain ⟨before, hbefore, rfl, rfl⟩ := hp
    obtain ⟨upTo, hupTo, rfl, rfl⟩ := hq
    obtain ⟨more, rfl⟩ := prefix_of_byteLength_le hbefore hupTo hlt.le
    have hmore : more ≠ [] := by
      rintro rfl
      simp at hlt
    rw [past_append]
    exact Position.lt_past _ hmore

/-- The number of a line is that of the lines that do not start behind the offset. -/
lemma line_eq_length (cs : List Char) (offset : Nat) : ((Lines.ofText cs).position offset).line =
    ((Lines.ofText cs).starts.takeWhile (· ≤ offset)).length := by
  have hstarts : (Lines.ofText cs).starts.takeWhile (· ≤ offset) =
      0 :: (((Lines.ofText cs).upTo offset).map Line.start) := by
    refine (List.takeWhile_cons_of_pos (by simp [Lines.ofText])).trans ?_
    rw [List.takeWhile_map]
    rfl
  rw [hstarts, List.length_cons, List.length_map]
  rfl

/-- **Positions by a plain count.** The position of an offset counts the line feeds, and the
characters since the last of them, in front of the last place of the text that is not behind the
offset. The starts of lines are in order, whatever a search for the offset answers among them tells
the line, and the column counts the characters from its start on. So positions are in the order of
the places. -/
theorem position_eq_count (text : String) (offset : Nat) :
    let cs := text.toList
    let lines := Lines.ofText cs
    let p := lines.position offset
    (∃ before, before <+: cs ∧
      IsGreatest {n | IsBoundary cs n ∧ n ≤ min offset (byteLength cs)} (byteLength before) ∧
      p = ⟨1 + before.count '\n', 1 + (before.reverse.takeWhile (· != '\n')).length⟩ ∧
      ∃ start tail, lines.starts[p.line - 1]? = some start ∧
        slice? start (byteLength before) cs = some tail ∧ p.column = tail.length + 1) ∧
    (lines.starts.Pairwise (· < ·) ∧ ∀ n, n ∈ lines.starts ↔ IsLineStart cs n) ∧
    ((∃ answer, Searched lines.starts offset answer) ∧
      ∀ answer, Searched lines.starts offset answer → p.line = countOf answer) ∧
    ∀ m n, IsBoundary cs m → IsBoundary cs n →
      ((lines.position m).Lt (lines.position n) ↔ m < n) := by
  intro cs lines p
  refine ⟨?_, ⟨pairwise_starts, fun n => mem_starts_iff⟩,
    ⟨exists_searched pairwise_starts _, fun answer h => ?_⟩,
    fun m n hm hn => (isPlace_position hm).lt_iff (isPlace_position hn)⟩
  -- the line on which the text in front of the place ends, with what stands there of it
  · obtain ⟨before, after, hcs, hfalls⟩ := exists_fallsBehind cs offset
    obtain ⟨front, tail, rfl, hfront, htail⟩ := exists_lastLine before
    have hp : p = (⟨1, 1⟩ : Position).past (front ++ tail) := by
      show (Lines.ofText cs).position offset = _
      rw [hcs, position_congr hfalls.sameEnds, position_byteLength]
    rw [hcs]
    refine ⟨front ++ tail, List.prefix_append _ _, hfalls.isGreatest, ?_,
      byteLength front, tail, ?_, slice?_append front tail after, ?_⟩
    · rw [hp, past_start]
    · rw [hp, past_lastLine hfront htail]
      show (Lines.ofText cs).starts[_]? = _
      rw [hcs, List.append_assoc, Nat.add_sub_cancel, getElem?_starts hfront]
    · rw [hp, past_lastLine hfront htail]
  · exact (line_eq_length cs offset).trans (h.length_takeWhile pairwise_starts)

/-- Inside a character of two bytes, and past the end. -/
example : let lines := Lines.ofText "héllo\nwörld".toList
    lines.position 9 = ⟨2, 2⟩ ∧ lines.position 99 = ⟨2, 6⟩ := by
  decide

end Contracts
