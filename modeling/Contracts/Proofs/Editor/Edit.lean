import Mathlib.Data.List.TakeWhile
import Contracts.Editor.Edit
import Contracts.Proofs.Text.Places
import Contracts.Proofs.Text.Utf8

/-!
Edits, from the places that an editor names to the bytes that they replace.

A point names a line and a character on it. On a line that is there it lies as many characters
behind the start of the line as it says, but never behind the end of the line; past the last line it
is the end of the text. Everything else about points and edits follows from that.
-/

namespace Contracts

variable {as bs cs before body rest : List Char} {n m character : Nat}

/-- What stands behind the characters of a line: a line feed or the end of the text, and before it a
carriage return if there is one. -/
inductive LineEnd (body : List Char) : List Char → Prop
  | feed (hbody : body.getLast? ≠ some '\r') (rest : List Char) : LineEnd body ('\n' :: rest)
  | returnFeed (rest : List Char) : LineEnd body ('\r' :: '\n' :: rest)
  | ended (hbody : body.getLast? ≠ some '\r') : LineEnd body []
  | endedReturn : LineEnd body ['\r']

/-- The characters of line `n` of a text, with what stands before and behind them. -/
structure IsLine (cs : List Char) (n : Nat) (before body rest : List Char) : Prop where
  text : cs = before ++ body ++ rest
  number : before.count '\n' = n
  start : before = [] ∨ ['\n'] <:+ before
  oneLine : '\n' ∉ body
  ended : LineEnd body rest

/-- A carriage return stands before a place and is part of the line end behind it. -/
def SplitsLineEnd (before after : List Char) : Prop :=
  before.getLast? = some '\r' ∧ ∀ c ∈ after.head?, c = '\n'

/-! ### Lines -/

lemma takeWhile_line (h : '\n' ∉ body) (rest : List Char) :
    (body ++ rest).takeWhile (· != '\n') = body ++ rest.takeWhile (· != '\n') := by
  refine List.takeWhile_append_of_pos fun c hc => ?_
  simp only [bne_iff_ne]
  rintro rfl
  exact h hc

lemma lineBody_eq (h : '\n' ∉ body) (hend : LineEnd body rest) :
    lineBody (body ++ rest) = body := by
  unfold lineBody
  rw [takeWhile_line h]
  cases hend with
  | feed hbody rest => simp [hbody]
  | returnFeed rest => simp
  | ended hbody => simp [hbody]
  | endedReturn => simp

/-- The first line of a text ends somewhere. -/
lemma exists_lineEnd (cs : List Char) :
    ∃ body rest, cs = body ++ rest ∧ '\n' ∉ body ∧ LineEnd body rest := by
  obtain ⟨line, rest, rfl, hline, hrest⟩ : ∃ line rest, cs = line ++ rest ∧ '\n' ∉ line ∧
      (rest = [] ∨ ∃ more, rest = '\n' :: more) := by
    refine ⟨_, _, (List.takeWhile_append_dropWhile (p := (· != '\n'))).symm,
      fun h => by simpa using List.mem_takeWhile_imp h, ?_⟩
    cases h : cs.dropWhile (· != '\n') with
    | nil => exact .inl rfl
    | cons c more =>
      have hc := List.head?_dropWhile_not (· != '\n') cs
      rw [h] at hc
      have hc : c = '\n' := by simpa using hc
      exact .inr ⟨more, by rw [hc]⟩
  by_cases hreturn : line.getLast? = some '\r'
  · obtain ⟨body, rfl⟩ := List.getLast?_eq_some_iff.mp hreturn
    refine ⟨body, '\r' :: rest, by simp, fun h => hline (List.mem_append_left _ h), ?_⟩
    rcases hrest with rfl | ⟨more, rfl⟩
    · exact .endedReturn
    · exact .returnFeed more
  · refine ⟨line, rest, rfl, hline, ?_⟩
    rcases hrest with rfl | ⟨more, rfl⟩
    · exact .ended hreturn
    · exact .feed hreturn more

/-- Every line up to the last one is there. -/
lemma exists_isLine (h : n ≤ cs.count '\n') : ∃ before body rest, IsLine cs n before body rest := by
  have hfirst : ∀ cs, ∃ before body rest, IsLine cs 0 before body rest := fun cs => by
    obtain ⟨body, rest, hcs, hbody, hend⟩ := exists_lineEnd cs
    exact ⟨[], body, rest, hcs, rfl, .inl rfl, hbody, hend⟩
  induction cs generalizing n with
  | nil =>
    obtain rfl : n = 0 := by simpa using h
    exact hfirst []
  | cons c cs ih =>
    rcases n with _ | n
    · exact hfirst (c :: cs)
    by_cases hc : c = '\n'
    · subst hc
      rw [List.count_cons_self] at h
      obtain ⟨before, body, rest, rfl, hnumber, hstart, hbody, hend⟩ :=
        ih (Nat.le_of_succ_le_succ h)
      refine ⟨'\n' :: before, body, rest, rfl, by rw [List.count_cons_self, hnumber], .inr ?_,
        hbody, hend⟩
      rcases hstart with rfl | hstart
      · exact List.suffix_rfl
      · exact hstart.trans (List.suffix_cons _ _)
    · rw [List.count_cons_of_ne hc] at h
      obtain ⟨before, body, rest, rfl, hnumber, hstart, hbody, hend⟩ := ih h
      refine ⟨c :: before, body, rest, rfl, by rw [List.count_cons_of_ne hc, hnumber], .inr ?_,
        hbody, hend⟩
      rcases hstart with rfl | hstart
      · cases hnumber
      · exact hstart.trans (List.suffix_cons _ _)

/-! ### Points -/

lemma indexOf_cons (n character : Nat) (c : Char) (cs : List Char) :
    indexOf (n + 1) character (c :: cs) =
      (if c = '\n' then indexOf n character cs else indexOf (n + 1) character cs) + 1 := by
  rw [indexOf]

/-- A point on a line that is there. -/
lemma index_of_line (h : IsLine cs n before body rest) (character : Nat) :
    indexOf n character cs = before.length + min character body.length := by
  obtain ⟨rfl, rfl, hstart, hbody, hend⟩ := h
  induction before with
  | nil =>
    rw [List.count_nil, indexOf, List.nil_append, lineBody_eq hbody hend, List.length_nil,
      Nat.zero_add]
  | cons c before ih =>
    have hstart := List.suffix_cons_iff.mp (hstart.resolve_left (List.cons_ne_nil _ _))
    rw [List.cons_append, List.cons_append, List.length_cons, Nat.succ_add]
    by_cases hc : c = '\n'
    · subst hc
      have hmore : before = [] ∨ ['\n'] <:+ before :=
        hstart.imp_left fun h => (List.cons.inj h).2.symm
      rw [List.count_cons_self, indexOf_cons, if_pos rfl, ih hmore]
    · -- the line feed that the line starts behind is still ahead
      have hmore := hstart.resolve_left fun h => hc (List.cons.inj h).1.symm
      obtain ⟨n, hn⟩ := Nat.exists_eq_succ_of_ne_zero
        (List.count_pos_iff.mpr (hmore.mem List.mem_cons_self)).ne'
      rw [List.count_cons_of_ne hc, hn, indexOf_cons, if_neg hc, ← Nat.succ_eq_add_one n, ← hn,
        ih (.inr hmore)]

/-- A point past the last line. -/
lemma index_of_past (h : cs.count '\n' < n) (character : Nat) :
    indexOf n character cs = cs.length := by
  obtain ⟨n, rfl⟩ := Nat.exists_eq_succ_of_ne_zero (Nat.ne_of_gt (Nat.zero_lt_of_lt h))
  induction cs generalizing n with
  | nil => rw [indexOf, List.length_nil]
  | cons c cs ih =>
    rw [indexOf_cons, List.length_cons]
    by_cases hc : c = '\n'
    · subst hc
      rw [List.count_cons_self] at h
      obtain ⟨n, rfl⟩ := Nat.exists_eq_succ_of_ne_zero
        (Nat.ne_of_gt (Nat.zero_lt_of_lt (Nat.lt_of_succ_lt_succ h)))
      rw [if_pos rfl, ih n (Nat.lt_of_succ_lt_succ h)]
    · rw [List.count_cons_of_ne hc] at h
      rw [if_neg hc, ih n h]

lemma index_le (n character : Nat) (cs : List Char) : indexOf n character cs ≤ cs.length := by
  rcases Nat.lt_or_ge (cs.count '\n') n with hpast | hthere
  · exact (index_of_past hpast character).le
  · obtain ⟨before, body, rest, hline⟩ := exists_isLine hthere
    rw [index_of_line hline, hline.text]
    simp only [List.length_append]
    omega

/-- A line ends before the next one starts. -/
lemma IsLine.prefix_of_lt {before' body' rest' : List Char} (h : IsLine cs n before body rest)
    (h' : IsLine cs m before' body' rest') (hlt : n < m) : before ++ body <+: before' := by
  have hbefore : before ++ body <+: cs := ⟨rest, h.text.symm⟩
  have hbefore' : before' <+: cs := ⟨body' ++ rest', by rw [h'.text, List.append_assoc]⟩
  refine (List.prefix_or_prefix_of_prefix hbefore hbefore').resolve_right fun hle => ?_
  have hcount := hle.sublist.count_le '\n'
  rw [List.count_append, h.number, h'.number, List.count_eq_zero.mpr h.oneLine] at hcount
  omega

/-- The order of points is that of the places they name. -/
lemma index_mono {p q : Point}
    (h : p.line < q.line ∨ p.line = q.line ∧ p.character ≤ q.character) (cs : List Char) :
    p.index cs ≤ q.index cs := by
  unfold Point.index
  rcases Nat.lt_or_ge (cs.count '\n') q.line with hpast | hthere
  · rw [index_of_past hpast]
    exact index_le _ _ _
  · obtain ⟨before, body, rest, hq⟩ := exists_isLine hthere
    rcases h with hlt | ⟨heq, hle⟩
    · obtain ⟨before', body', rest', hp⟩ := exists_isLine (hlt.le.trans hthere)
      have hlength := (hp.prefix_of_lt hq hlt).length_le
      rw [index_of_line hp, index_of_line hq]
      rw [List.length_append] at hlength
      omega
    · rw [heq, index_of_line hq, index_of_line hq]
      omega

/-- Characters in front of a line end that they do not split are part of the line. -/
lemma length_le_body {tail : List Char} (h : ¬ SplitsLineEnd tail bs) (htail : '\n' ∉ tail)
    (heq : tail ++ bs = body ++ rest) (hend : LineEnd body rest) : tail.length ≤ body.length := by
  rcases List.append_eq_append_iff.mp heq with ⟨more, rfl, -⟩ | ⟨more, rfl, hrest⟩
  · exact List.length_append ▸ Nat.le_add_right _ _
  have hmore : '\n' ∉ more := fun hmem => htail (List.mem_append_right _ hmem)
  rcases more with _ | ⟨c, _ | ⟨d, more⟩⟩
  · simp
  · -- what is behind the body is the carriage return of the line end, which may not be split off
    refine absurd ?_ h
    rw [hrest] at hend
    cases hend with
    | feed => exact absurd List.mem_cons_self hmore
    | returnFeed => exact ⟨List.getLast?_concat, fun c hc => (Option.some.inj hc).symm⟩
    | endedReturn => exact ⟨List.getLast?_concat, fun c hc => by cases hc⟩
  · rw [hrest] at hend
    cases hend with
    | feed => exact absurd List.mem_cons_self hmore
    | returnFeed => exact absurd (List.mem_cons_of_mem _ List.mem_cons_self) hmore

/-- The line of a place at which no line end is split, in front of the place and behind it. -/
lemma exists_line (h : ¬ SplitsLineEnd as bs) :
    ∃ front tail body rest, as = front ++ tail ∧ '\n' ∉ tail ∧ (front = [] ∨ ['\n'] <:+ front) ∧
      tail ++ bs = body ++ rest ∧ IsLine (as ++ bs) (front.count '\n') front body rest ∧
      tail.length ≤ body.length := by
  obtain ⟨front, tail, rfl, hfront, htail⟩ := exists_lastLine as
  obtain ⟨body, rest, heq, hbody, hend⟩ := exists_lineEnd (tail ++ bs)
  have hsplits : ¬ SplitsLineEnd tail bs := by
    rintro ⟨hreturn, hfeed⟩
    obtain ⟨ys, rfl⟩ := List.getLast?_eq_some_iff.mp hreturn
    exact h ⟨by rw [← List.append_assoc, List.getLast?_concat], hfeed⟩
  exact ⟨front, tail, body, rest, rfl, htail, hfront, heq,
    ⟨by rw [List.append_assoc, heq, List.append_assoc], rfl, hfront, hbody, hend⟩,
    length_le_body hsplits htail heq hend⟩

/-- Behind the characters `as` a point has the index of their end, if it is on the line that they
end on and no line end is split there. -/
lemma index_past (h : ¬ SplitsLineEnd as bs) (hchars : as.length ≤ editorLimit) :
    ((⟨1, 1⟩ : Position).past as).point.index (as ++ bs) = as.length := by
  obtain ⟨front, tail, body, rest, rfl, htail, hfront, -, hline, hle⟩ := exists_line h
  have hlines := List.count_le_length (a := '\n') (l := front)
  rw [List.length_append] at hchars ⊢
  rw [past_lastLine hfront htail]
  unfold Position.point Point.index
  dsimp only
  rw [Nat.add_sub_cancel, Nat.add_sub_cancel, min_eq_left (by omega), min_eq_left (by omega),
    index_of_line hline, min_eq_left hle]

/-! ### Bytes -/

lemma byteLength_take_mono {i j : Nat} (h : i ≤ j) (cs : List Char) :
    byteLength (cs.take i) ≤ byteLength (cs.take j) :=
  byteLength_mono (List.take_prefix_take_left h)

lemma isBoundary_take (cs : List Char) (i : Nat) : IsBoundary cs (byteLength (cs.take i)) :=
  ⟨_, List.take_prefix _ _, rfl⟩

lemma Point.isBoundary_offset (p : Point) (cs : List Char) : IsBoundary cs (p.offset cs) :=
  isBoundary_take cs _

/-- A text cut between two characters has its bytes cut there. -/
lemma encode_cut (cs : List Char) (i : Nat) :
    (Utf8.encode (String.ofList cs)).take (byteLength (cs.take i)) =
        Utf8.encode (String.ofList (cs.take i)) ∧
      (Utf8.encode (String.ofList cs)).drop (byteLength (cs.take i)) =
        Utf8.encode (String.ofList (cs.drop i)) := by
  have hbytes : Utf8.encode (String.ofList cs) = Utf8.encode (String.ofList (cs.take i)) ++
      Utf8.encode (String.ofList (cs.drop i)) := by
    rw [← Utf8.encode_append, ← String.ofList_append, List.take_append_drop]
  rw [hbytes, ← Utf8.length_encode (cs.take i)]
  exact ⟨List.take_left, List.drop_left⟩

/-! ### Edits -/

lemma applyEdits_append (text : String) (done more : List Edit) :
    applyEdits text (done ++ more) = applyEdits (applyEdits text done) more := by
  simp [applyEdits]

lemma applyEdits_singleton (text : String) (e : Edit) :
    applyEdits text [e] = String.ofList (e.apply text.toList) := rfl

lemma Point.offset_max (p q : Point) (cs : List Char) :
    max (p.offset cs) (q.offset cs) = byteLength (cs.take (max (p.index cs) (q.index cs))) := by
  rcases Nat.le_total (p.index cs) (q.index cs) with h | h
  · rw [max_eq_right h]
    exact max_eq_right (byteLength_take_mono h cs)
  · rw [max_eq_left h]
    exact max_eq_left (byteLength_take_mono h cs)

/-- On a line that is there, a point is as far behind its start as it says, or at its end. -/
lemma Point.offset_of_line {p : Point} (h : IsLine cs p.line before body rest) :
    p.offset cs = byteLength (before ++ body.take p.character) := by
  rw [Point.offset, Point.index, index_of_line h, h.text, List.append_assoc,
    List.take_length_add_append, List.take_append_of_le_length (min_le_right _ _), ← List.take_take,
    List.take_length]

/-- An edit of a range keeps the bytes in front of it and those behind it. -/
lemma encode_apply {e : Edit} {range : Range} (h : e.range = some range) (cs : List Char) :
    Utf8.encode (String.ofList (e.apply cs)) =
      (Utf8.encode (String.ofList cs)).take (range.start.offset cs) ++ Utf8.encode e.text ++
        (Utf8.encode (String.ofList cs)).drop
          (max (range.start.offset cs) (range.stop.offset cs)) := by
  rw [Point.offset_max, (encode_cut cs _).2, Point.offset, (encode_cut cs _).1, Edit.apply, h]
  dsimp only
  rw [String.ofList_append, String.ofList_append, Utf8.encode_append, Utf8.encode_append,
    String.ofList_toList]

/-- **Edits at reported positions.** Positions of two places of a text, between characters and not
inside a line end, lead back to these places, and an edit of the range between them replaces exactly
what stands there. -/
theorem edit_at_positions (text replacement : String) (before middle after : List Char)
    (htext : text.toList = before ++ middle ++ after) (hchars : text.length ≤ editorLimit)
    (hstart : ¬ SplitsLineEnd before (middle ++ after))
    (hstop : ¬ SplitsLineEnd (before ++ middle) after) :
    let lines := Lines.ofText text.toList
    let start := (lines.position (byteLength before)).point
    let stop := (lines.position (byteLength (before ++ middle))).point
    start.offset text.toList = byteLength before ∧
      stop.offset text.toList = byteLength (before ++ middle) ∧
      applyEdits text [⟨some ⟨start, stop⟩, replacement⟩] =
        String.ofList before ++ replacement ++ String.ofList after := by
  intro lines start stop
  have hlength : (before ++ middle ++ after).length ≤ editorLimit := by
    rwa [← htext, String.length_toList]
  rw [List.length_append] at hlength
  have hindexStart : start.index text.toList = before.length := by
    show (Position.point ((Lines.ofText text.toList).position _)).index text.toList = _
    rw [List.length_append] at hlength
    rw [htext, List.append_assoc, position_byteLength]
    exact index_past hstart (by omega)
  have hindexStop : stop.index text.toList = (before ++ middle).length := by
    show (Position.point ((Lines.ofText text.toList).position _)).index text.toList = _
    rw [htext, position_byteLength]
    exact index_past hstop (by omega)
  refine ⟨?_, ?_, ?_⟩
  · rw [Point.offset, hindexStart, htext, List.append_assoc, List.take_left]
  · rw [Point.offset, hindexStop, htext, List.take_left]
  · have hmax : max before.length (before ++ middle).length = (before ++ middle).length := by simp
    rw [applyEdits_singleton, Edit.apply]
    dsimp only
    rw [hindexStart, hindexStop, hmax, htext, List.drop_left, List.append_assoc before,
      List.take_left, String.ofList_append, String.ofList_append, String.ofList_toList]

/-- The line end behind a character of two bytes is replaced. -/
theorem edit_at_positions_unicode :
    let text := "a\r\nhé\r\nb"
    let lines := Lines.ofText text.toList
    text.length ≤ editorLimit ∧ ¬ SplitsLineEnd "a\r\nhé".toList "\r\nb".toList ∧
      ¬ SplitsLineEnd "a\r\nhé\r\n".toList "b".toList ∧
      applyEdits text [⟨some ⟨(lines.position 6).point, (lines.position 8).point⟩, " "⟩] =
        "a\r\nhé b" := by
  intro text lines
  have hchars : text.length ≤ editorLimit := by decide
  have hstart : ¬ SplitsLineEnd "a\r\nhé".toList "\r\nb".toList := fun h => absurd h.1 (by decide)
  have hstop : ¬ SplitsLineEnd "a\r\nhé\r\n".toList "b".toList := fun h => absurd h.1 (by decide)
  exact ⟨hchars, hstart, hstop,
    (edit_at_positions text " " "a\r\nhé".toList "\r\n".toList "b".toList (by decide) hchars
      hstart hstop).2.2⟩

/-- **Edits never reach past the text.** However many edits came before: every point, whatever
numbers it has, is the offset of a place between characters; a point on a line that is there lies on
it, before its end, and one past the last line is the end of the text; and later points are not
earlier places. So an edit of a range replaces the bytes between two such places that are in order,
and keeps all other bytes. -/
theorem edits_stay_within (text : String) (done : List Edit) (e : Edit) (more : List Edit) :
    let now := applyEdits text done
    let cs := now.toList
    let next := applyEdits text (done ++ [e])
    (∀ p : Point, IsBoundary cs (p.offset cs) ∧ p.offset cs ≤ (Utf8.encode now).length ∧
      (cs.count '\n' < p.line → p.offset cs = (Utf8.encode now).length) ∧
      (p.line ≤ cs.count '\n' → ∃ before body rest, IsLine cs p.line before body rest ∧
        p.offset cs = byteLength (before ++ body.take p.character))) ∧
    (∀ p q : Point, p.line < q.line ∨ p.line = q.line ∧ p.character ≤ q.character →
      p.offset cs ≤ q.offset cs) ∧
    (∀ range, e.range = some range →
      let start := range.start.offset cs
      let stop := max start (range.stop.offset cs)
      start ≤ stop ∧ stop ≤ (Utf8.encode now).length ∧ IsBoundary cs start ∧ IsBoundary cs stop ∧
        Utf8.encode next =
          (Utf8.encode now).take start ++ Utf8.encode e.text ++ (Utf8.encode now).drop stop) ∧
    (e.range = none → next = e.text) ∧
    applyEdits text (done ++ e :: more) = applyEdits next more := by
  intro now cs next
  have hbytes : (Utf8.encode now).length = byteLength cs := by
    rw [← Utf8.length_encode, String.ofList_toList]
  have hnext : next = String.ofList (e.apply cs) := applyEdits_append text done [e]
  refine ⟨fun p => ⟨p.isBoundary_offset cs, hbytes ▸ (p.isBoundary_offset cs).le, fun h => ?_,
    fun h => ?_⟩, fun p q h => byteLength_take_mono (index_mono h cs) cs, fun range hrange => ?_,
    fun hrange => ?_, ?_⟩
  · rw [hbytes, Point.offset, Point.index, index_of_past h, List.take_length]
  · obtain ⟨before, body, rest, hline⟩ := exists_isLine h
    exact ⟨before, body, rest, hline, Point.offset_of_line hline⟩
  · intro start stop
    have hstop : IsBoundary cs stop :=
      ⟨_, List.take_prefix _ _, (range.start.offset_max range.stop cs).symm⟩
    refine ⟨le_max_left _ _, hbytes ▸ hstop.le, range.start.isBoundary_offset cs, hstop, ?_⟩
    rw [hnext, encode_apply hrange, String.ofList_toList]
  · rw [hnext, Edit.apply, hrange, String.ofList_toList]
  · rw [← List.singleton_append, ← List.append_assoc, applyEdits_append]

end Contracts
