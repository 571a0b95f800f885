import Mathlib.Tactic.Common
import Contracts.Identity.ProfileId
import Contracts.Proofs.Text.Split

/-!
Namespaces as keys.

The text of a namespace can be read again: the parts of a name hold neither a slash nor an at sign,
and the digits of a number no dot, so every separator is found where it was written. What is read is
the name, the major and the minor number, and therefore two namespaces are written alike exactly if
their identities are compatible.
-/

namespace Contracts

namespace Decimal

lemma digit_spec : ∀ d < 10, (digit d).isDigit = true ∧ (digit d).toNat - '0'.toNat = d := by
  decide

lemma value_append (cs : List Char) (c : Char) :
    value (cs ++ [c]) = value cs * 10 + (c.toNat - '0'.toNat) := by
  simp [value, List.foldl_append]

/-- The digits of a number are digits, and there is at least one. -/
lemma isDigit_of_mem_digits (n : Nat) : ∀ c ∈ digits n, c.isDigit = true := by
  induction n using digits.induct with
  | case1 n h =>
    unfold digits
    rw [if_pos h]
    simpa using (digit_spec n h).1
  | case2 n h ih =>
    unfold digits
    rw [if_neg h]
    intro c hc
    rcases List.mem_append.mp hc with hc | hc
    · exact ih c hc
    · rw [List.mem_singleton.mp hc]
      exact (digit_spec _ (Nat.mod_lt n (by decide))).1

lemma digits_ne_nil (n : Nat) : digits n ≠ [] := by
  unfold digits
  split <;> simp

lemma value_digits (n : Nat) : value (digits n) = n := by
  induction n using digits.induct with
  | case1 n h =>
    unfold digits
    rw [if_pos h]
    simpa [value] using (digit_spec n h).2
  | case2 n h ih =>
    unfold digits
    rw [if_neg h, value_append, ih, (digit_spec _ (Nat.mod_lt n (by decide))).2]
    omega

/-- A number of 32 bits is read again from its digits. -/
lemma word?_digits (w : UInt32) : word? (digits w.toNat) = some w := by
  have hdigits := isDigit_of_mem_digits w.toNat
  have hall : (digits w.toNat).all Char.isDigit = true := List.all_eq_true.mpr hdigits
  have hlt : w.toNat < wordCount := w.toNat_lt
  unfold word?
  dsimp only
  split
  · next ds hsign =>
    have := hdigits '+' (by rw [hsign]; exact List.mem_cons_self)
    cases this
  · rw [if_pos ⟨digits_ne_nil _, hall, by rwa [value_digits]⟩, value_digits, UInt32.ofNat_toNat]

end Decimal

namespace Version

variable {v w : Version}

lemma toList_shortText : v.shortText.toList =
    Decimal.digits v.major.toNat ++ '.' :: Decimal.digits v.minor.toNat := by
  simp [shortText, Decimal.text]

lemma dot_notMem_digits (n : Nat) : '.' ∉ Decimal.digits n := fun h => by
  have := Decimal.isDigit_of_mem_digits n '.' h
  cases this

/-- The short text of a version tells all but the patch number. -/
lemma ofText?_shortText : ofText? v.shortText = some ⟨v.major, v.minor, none⟩ := by
  have hparts : splitAll '.' v.shortText.toList =
      [Decimal.digits v.major.toNat, Decimal.digits v.minor.toNat] := by
    rw [toList_shortText, splitAll_append (dot_notMem_digits _),
      splitAll_of_notMem (dot_notMem_digits _)]
  unfold ofText?
  rw [hparts]
  simp [Decimal.word?_digits]

end Version

namespace DocumentName

variable {n : DocumentName} {cs : List Char}

/-- The parts of a name are not empty and made of the characters of names. -/
structure IsProper (n : DocumentName) : Prop where
  scope : ∀ s, n.scope = some s → isPart s.toList = true
  name : isPart n.name.toList = true

lemma notMem_of_isPart {c : Char} (hc : isNameChar c = false) (h : isPart cs = true) : c ∉ cs := by
  intro hmem
  obtain ⟨-, hall⟩ := Bool.and_eq_true_iff.mp h
  rw [List.all_eq_true.mp hall c hmem] at hc
  cases hc

/-- A name that is read is proper. -/
lemma isProper_of_ofText? {text : String} (h : ofText? text = some n) : n.IsProper := by
  unfold ofText? at h
  split at h
  · split at h
    · next hparts =>
      obtain ⟨hscope, hname⟩ := Bool.and_eq_true_iff.mp hparts
      cases h
      refine ⟨fun s hs => ?_, by simpa using hname⟩
      cases hs
      simpa using hscope
    · cases h
  · split at h
    · next hname =>
      cases h
      exact ⟨fun s hs => (nomatch hs), hname⟩
    · cases h

/-- A proper name is read again from its text. -/
lemma IsProper.ofText?_text (h : n.IsProper) : ofText? n.text = some n := by
  obtain ⟨scope, name⟩ := n
  cases scope with
  | none =>
    have hsplit := splitFirst_eq_none (notMem_of_isPart (by decide) h.name : '/' ∉ name.toList)
    have hname : isPart name.toList = true := h.name
    simp [text, ofText?, hsplit, hname]
  | some scope =>
    have hscope := h.scope scope rfl
    have hsplit := splitFirst_append (b := name.toList)
      (notMem_of_isPart (by decide) hscope : '/' ∉ scope.toList)
    have htext : (text ⟨some scope, name⟩).toList = scope.toList ++ '/' :: name.toList := by
      simp [text]
    simp only [ofText?, htext, hsplit]
    rw [if_pos (by simp [hscope, h.name])]
    simp

lemma IsProper.at_notMem_text (h : n.IsProper) : '@' ∉ n.text.toList := by
  obtain ⟨scope, name⟩ := n
  have hname : '@' ∉ name.toList := notMem_of_isPart (by decide) h.name
  cases scope with
  | none => exact hname
  | some scope =>
    have hscope : '@' ∉ scope.toList := notMem_of_isPart (by decide) (h.scope scope rfl)
    simp [text, hscope, hname]

end DocumentName

/-- The key of a namespace is the text of the identity. -/
lemma namespaceText_eq (name : DocumentName) (version : Version) :
    namespaceText name version = (ProfileId.mk name version).text := by
  obtain ⟨_ | scope, name⟩ := name <;>
    simp [namespaceText, ProfileId.text, DocumentName.text, String.append_assoc]

namespace ProfileId

variable {a b : ProfileId}

lemma isProper_of_ofText? {text : String} (h : ofText? text = some a) : a.name.IsProper := by
  unfold ofText? at h
  obtain ⟨⟨name, version⟩, -, h⟩ := Option.bind_eq_some_iff.mp h
  obtain ⟨n, hn, h⟩ := Option.bind_eq_some_iff.mp h
  obtain ⟨v, -, h⟩ := Option.bind_eq_some_iff.mp h
  cases h
  exact DocumentName.isProper_of_ofText? hn

/-- The text of an identity tells all but the patch number. -/
lemma ofText?_text (h : a.name.IsProper) :
    ofText? a.text = some ⟨a.name, ⟨a.version.major, a.version.minor, none⟩⟩ := by
  have htext : a.text.toList = a.name.text.toList ++ '@' :: a.version.shortText.toList := by
    simp [text]
  unfold ofText?
  rw [htext, splitFirst_append h.at_notMem_text]
  simp [h.ofText?_text, Version.ofText?_shortText]

lemma isCompatible_iff : a.isCompatible b = true ↔
    a.name = b.name ∧ a.version.major = b.version.major ∧ a.version.minor = b.version.minor := by
  simp [isCompatible, and_assoc]

/-- **The text is a faithful key.** Identities are written alike exactly if they are compatible. -/
theorem text_eq_iff (ha : a.name.IsProper) (hb : b.name.IsProper) :
    a.text = b.text ↔ a.isCompatible b = true := by
  rw [isCompatible_iff]
  constructor
  · intro h
    have hread := ofText?_text ha
    rw [h, ofText?_text hb] at hread
    simp only [Option.some.injEq, mk.injEq, Version.mk.injEq, and_true] at hread
    exact ⟨hread.1.symm, hread.2.1.symm, hread.2.2.symm⟩
  · rintro ⟨hname, hmajor, hminor⟩
    simp only [text, Version.shortText, hname, hmajor, hminor]

end ProfileId

end Contracts
