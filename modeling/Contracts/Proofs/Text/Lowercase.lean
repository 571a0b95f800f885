import Mathlib.Tactic.Common
import Contracts.Text.Lowercase

/-!
The lowercase form of a part of a text.

Every character is lowered by itself but for the capital sigma, which looks at both sides. So the
lowercase form of a part stands in the one of the whole text, at the place of the part, exactly if
each capital sigma of it ends a word in the part just when it does so in the text. A text in
lowercase has no capital sigma, and nothing else in it is lowered any further.
-/

namespace Contracts

/-- A capital sigma with some characters in front, nearest first, and some behind ends a word. -/
def endsWord (before after : List Char) : Bool := startsCased before && !startsCased after

/-- The lowercase form of a character where it stands. -/
def lowercaseAt (before : List Char) (c : Char) (after : List Char) : List Char :=
  if c.toNat = 0x3A3 then [Char.ofNat (if endsWord before after then 0x3C2 else 0x3C3)]
  else lowercaseOf c

/-- The lowercase form of a part where it stands. -/
def lowercaseWithin (before : List Char) : List Char → List Char → List Char
  | [], _ => []
  | c :: cs, after => lowercaseAt before c (cs ++ after) ++ lowercaseWithin (c :: before) cs after

/-- Each capital sigma of a part ends a word in the part just when it does so between `before`,
which has its nearest character first, and `after`. -/
def SameWordEnds (before part after : List Char) : Prop :=
  ∀ front back, part = front ++ 'Σ' :: back →
    endsWord front.reverse back = endsWord (front.reverse ++ before) (back ++ after)

variable {before part after cs : List Char} {c : Char} {n : Nat}

/-! ### Parts of a text -/

lemma lowercaseAfter_cons : lowercaseAfter before (c :: cs) =
    lowercaseAt before c cs ++ lowercaseAfter (c :: before) cs := rfl

/-- A text in two parts is lowered part by part. -/
lemma lowercaseAfter_append : lowercaseAfter before (part ++ after) =
    lowercaseWithin before part after ++ lowercaseAfter (part.reverse ++ before) after := by
  induction part generalizing before with
  | nil => rfl
  | cons c cs ih =>
    rw [List.cons_append, lowercaseAfter_cons, ih, lowercaseWithin, List.append_assoc]
    simp

lemma lowercaseWithin_nil : lowercaseWithin before part [] = lowercaseAfter before part := by
  have h := @lowercaseAfter_append before part []
  rw [List.append_nil, lowercaseAfter, List.append_nil] at h
  exact h.symm

lemma toNat_eq_sigma : c.toNat = 0x3A3 ↔ c = 'Σ' :=
  ⟨fun h => Char.toNat_inj.mp h, fun h => h ▸ rfl⟩

/-- Where a character stands makes no difference to how long its lowercase form is. -/
lemma length_lowercaseAt {before' after' : List Char} :
    (lowercaseAt before c after).length = (lowercaseAt before' c after').length := by
  unfold lowercaseAt
  split <;> rfl

lemma length_lowercaseWithin {before' after' : List Char} :
    (lowercaseWithin before part after).length = (lowercaseWithin before' part after').length := by
  induction part generalizing before before' with
  | nil => rfl
  | cons c cs ih =>
    simp only [lowercaseWithin, List.length_append]
    rw [length_lowercaseAt, ih]

lemma lowercaseAt_eq_iff {before' after' : List Char} :
    lowercaseAt before c after = lowercaseAt before' c after' ↔
      (c = 'Σ' → endsWord before after = endsWord before' after') := by
  have hforms : Char.ofNat 0x3C2 ≠ Char.ofNat 0x3C3 := by decide
  unfold lowercaseAt
  simp only [toNat_eq_sigma]
  split
  · next h =>
    cases endsWord before after <;> cases endsWord before' after' <;> simp [h, hforms, hforms.symm]
  · next h => simp [h]

/-- In two surroundings a part has one lowercase form if its sigmas end words alike. -/
lemma lowercaseWithin_eq_iff {before' after' : List Char} :
    lowercaseWithin before part after = lowercaseWithin before' part after' ↔
      ∀ front back, part = front ++ 'Σ' :: back →
        endsWord (front.reverse ++ before) (back ++ after) =
          endsWord (front.reverse ++ before') (back ++ after') := by
  induction part generalizing before before' with
  | nil => simp [lowercaseWithin]
  | cons c cs ih =>
    have hsplit :
        lowercaseWithin before (c :: cs) after = lowercaseWithin before' (c :: cs) after' ↔
          lowercaseAt before c (cs ++ after) = lowercaseAt before' c (cs ++ after') ∧
            lowercaseWithin (c :: before) cs after = lowercaseWithin (c :: before') cs after' :=
      ⟨fun h => List.append_inj h length_lowercaseAt, fun ⟨h, h'⟩ => congrArg₂ _ h h'⟩
    rw [hsplit, lowercaseAt_eq_iff, ih]
    constructor
    · rintro ⟨hhere, hmore⟩ front back hcut
      cases front with
      | nil =>
        obtain ⟨rfl, rfl⟩ := List.cons.inj hcut
        exact hhere rfl
      | cons x front =>
        obtain ⟨rfl, rfl⟩ := List.cons.inj hcut
        simpa using hmore front back rfl
    · refine fun h => ⟨?_, fun front back hcut => ?_⟩
      · rintro rfl
        exact h [] cs rfl
      · simpa using h (c :: front) back (by rw [hcut]; rfl)

/-- A part in lowercase is what stands at its place in the lowercase text just if its sigmas end
words alike. -/
lemma lowercaseWithin_eq_lowercase_iff :
    lowercaseWithin before part after = lowercase part ↔ SameWordEnds before part after := by
  unfold lowercase SameWordEnds
  rw [← lowercaseWithin_nil, lowercaseWithin_eq_iff]
  simp only [List.append_nil, eq_comm]

lemma sameWordEnds_of_notMem (h : 'Σ' ∉ part) : SameWordEnds before part after := by
  rintro front back rfl
  exact absurd (by simp) h

/-- The lowercase form of a part stands in that of the whole text at the place of the part, or at
another one. -/
lemma lowercase_infix_iff : lowercase part <:+: lowercase (before ++ part ++ after) ↔
    SameWordEnds before.reverse part after ∨ ∃ x y,
      lowercase (before ++ part ++ after) = x ++ lowercase part ++ y ∧
        x.length ≠ (lowercase before).length := by
  have hcut : lowercase (before ++ part ++ after) = lowercaseWithin [] before (part ++ after) ++
      lowercaseWithin before.reverse part after ++
        lowercaseAfter (part.reverse ++ before.reverse) after := by
    unfold lowercase
    rw [List.append_assoc, lowercaseAfter_append, List.append_nil, lowercaseAfter_append,
      List.append_assoc]
  have hplace : (lowercaseWithin [] before (part ++ after)).length = (lowercase before).length := by
    rw [lowercase, ← lowercaseWithin_nil, length_lowercaseWithin]
  rw [← lowercaseWithin_eq_lowercase_iff]
  constructor
  · rintro ⟨x, y, hxy⟩
    by_cases hlen : x.length = (lowercase before).length
    · left
      rw [hcut, List.append_assoc, List.append_assoc] at hxy
      have hrest := (List.append_inj hxy (by rw [hlen, hplace])).2
      refine (List.append_inj hrest ?_).1.symm
      rw [lowercase, ← lowercaseWithin_nil, length_lowercaseWithin]
    · exact .inr ⟨x, y, hxy.symm, hlen⟩
  · rintro (hhere | ⟨x, y, hxy, -⟩)
    · exact ⟨_, _, by rw [hcut, hhere]⟩
    · exact ⟨x, y, hxy.symm⟩

/-! ### Texts in lowercase -/

/-- A run holds a code point. -/
def InRun (n : Nat) (run : Nat × Nat × Nat × Int) : Prop :=
  run.1 ≤ n ∧ n ≤ run.2.1 ∧ (n - run.1) % run.2.2.1 = 0

/-- The code points that a run leads to, all from `low` to `high`, are characters, and none of them
is the dotted capital I. -/
def Leads (run : Nat × Nat × Nat × Int) (low high : Nat) : Prop :=
  (low : Int) = run.1 + run.2.2.2 ∧ (high : Int) = run.2.1 + run.2.2.2 ∧
    (high < 0x130 ∨ 0x130 < low ∧ high < 0xD800 ∨ 0xDFFF < low ∧ high < 0x110000)

/-- What a run leads to is not held by another: it lies before it or behind it, or between any two
of its members. -/
def leadsApart (run run' : Nat × Nat × Nat × Int) (low high : Nat) : Bool :=
  high.blt run'.1 || run'.2.1.blt low ||
    (run'.2.2.1 == 2 && (run.2.2.1 == 2 || run.1 == run.2.1) && (low + run'.1) % 2 == 1)

instance (run low high) : Decidable (Leads run low high) := inferInstanceAs (Decidable (_ ∧ _))

/-- A character that has no other lowercase form. -/
def IsLowered (c : Char) : Prop :=
  c.toNat ≠ 0x130 ∧ lowercaseShift? c.toNat lowercaseRuns = none

instance (c : Char) : Decidable (IsLowered c) := inferInstanceAs (Decidable (_ ∧ _))

lemma exists_run {runs : List (Nat × Nat × Nat × Int)} {shift : Int}
    (h : lowercaseShift? n runs = some shift) : ∃ run ∈ runs, InRun n run ∧ run.2.2.2 = shift := by
  induction runs with
  | nil => cases h
  | cons run runs ih =>
    obtain ⟨first, last, step, shift'⟩ := run
    rw [lowercaseShift?] at h
    split at h
    · next hin =>
      cases h
      exact ⟨_, List.mem_cons_self, hin, rfl⟩
    · obtain ⟨run, hmem, hrun⟩ := ih h
      exact ⟨run, List.mem_cons_of_mem _ hmem, hrun⟩

lemma lowercaseShift?_eq_none {runs : List (Nat × Nat × Nat × Int)}
    (h : ∀ run ∈ runs, ¬InRun n run) : lowercaseShift? n runs = none := by
  induction runs with
  | nil => rfl
  | cons run runs ih =>
    have hout := h run List.mem_cons_self
    unfold InRun at hout
    rw [lowercaseShift?, if_neg hout, ih fun run' hmem => h run' (List.mem_cons_of_mem _ hmem)]

/-- The runs lead to characters that none of them holds. -/
lemma runs_lead_out : ∀ run ∈ lowercaseRuns,
    let low := Int.toNat (run.1 + run.2.2.2)
    let high := Int.toNat (run.2.1 + run.2.2.2)
    Leads run low high ∧ lowercaseRuns.all (leadsApart run · low high) = true := by
  decide +kernel

/-- A code point that has another lowercase form is led to a character that has none. -/
lemma lowercaseShift?_leads_out {shift : Int} (h : lowercaseShift? n lowercaseRuns = some shift) :
    (Int.toNat (n + shift)).isValidChar ∧ Int.toNat (n + shift) ≠ 0x130 ∧
      lowercaseShift? (Int.toNat (n + shift)) lowercaseRuns = none := by
  obtain ⟨run, hrun, ⟨hfirst, hlast, hstep⟩, rfl⟩ := exists_run h
  obtain ⟨⟨hlow, hhigh, hchar⟩, hapart⟩ := runs_lead_out run hrun
  unfold Nat.isValidChar
  refine ⟨by omega, by omega, lowercaseShift?_eq_none fun run' hrun' hin => ?_⟩
  obtain ⟨hfirst', hlast', hstep'⟩ := hin
  -- no run holds what this one leads to: all of it is before or behind that run, or in its gaps
  have hapart' := List.all_eq_true.mp hapart run' hrun'
  simp only [leadsApart, Bool.or_eq_true, Bool.and_eq_true, Nat.blt_eq, beq_iff_eq] at hapart'
  obtain (hbefore | hbehind) | ⟨⟨htwo, hsteps⟩, hodd⟩ := hapart'
  · omega
  · omega
  · rw [htwo] at hstep'
    obtain hsteps | hsingle := hsteps
    · rw [hsteps] at hstep
      omega
    · omega

lemma lowercaseAt_of_isLowered (h : IsLowered c) : lowercaseAt before c after = [c] := by
  obtain ⟨hdotted, hnone⟩ := h
  have hsigma : c.toNat ≠ 0x3A3 := by
    intro heq
    rw [heq] at hnone
    cases hnone
  rw [lowercaseAt, if_neg hsigma, lowercaseOf, if_neg hdotted, hnone]

lemma isLowered_of_mem_lowercaseOf {x : Char} (hx : x ∈ lowercaseOf c) : IsLowered x := by
  unfold lowercaseOf at hx
  split at hx
  · -- the dotted capital I is the only one with two characters
    obtain rfl | rfl : x = 'i' ∨ x = Char.ofNat 0x307 := by simpa using hx
    all_goals decide +kernel
  · next hdotted =>
    split at hx
    · next shift hshift =>
      obtain ⟨hchar, hne, hnone⟩ := lowercaseShift?_leads_out hshift
      rw [List.mem_singleton.mp hx, IsLowered, Char.ofNat, dif_pos hchar]
      exact ⟨hne, hnone⟩
    · next hnone =>
      rw [List.mem_singleton.mp hx]
      exact ⟨hdotted, hnone⟩

lemma isLowered_of_mem_lowercaseAt {x : Char} (hx : x ∈ lowercaseAt before c after) :
    IsLowered x := by
  unfold lowercaseAt at hx
  split at hx
  · rw [List.mem_singleton.mp hx]
    split <;> decide +kernel
  · exact isLowered_of_mem_lowercaseOf hx

lemma isLowered_of_mem_lowercaseAfter {x : Char} (hx : x ∈ lowercaseAfter before cs) :
    IsLowered x := by
  induction cs generalizing before with
  | nil => cases hx
  | cons c cs ih =>
    rw [lowercaseAfter_cons, List.mem_append] at hx
    exact hx.elim isLowered_of_mem_lowercaseAt ih

lemma lowercaseAfter_eq_self (h : ∀ c ∈ cs, IsLowered c) : lowercaseAfter before cs = cs := by
  induction cs generalizing before with
  | nil => rfl
  | cons c cs ih =>
    rw [lowercaseAfter_cons, lowercaseAt_of_isLowered (h c List.mem_cons_self),
      ih fun x hx => h x (List.mem_cons_of_mem _ hx)]
    rfl

/-- A text in lowercase is its own lowercase form. -/
lemma lowercase_lowercase : lowercase (lowercase cs) = lowercase cs :=
  lowercaseAfter_eq_self fun _ => isLowered_of_mem_lowercaseAfter

end Contracts
