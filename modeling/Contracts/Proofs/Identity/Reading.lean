import Mathlib.Data.List.Induction
import Contracts.Proofs.Identity.Namespace

/-!
Which texts are read as names, versions and identities.

Each reader cuts a text at its separators and looks at the parts. A part that is read holds no
separator, so the cuts are the ones that were written, and what is read is what the text says. The
numbers of a version may have a plus sign in front, which nothing that is printed has. Printing and
reading again therefore keeps all but signs, leading zeros and, of an identity, the patch number.
-/

namespace Contracts

namespace Decimal

variable {cs : List Char} {n : Nat} {w : UInt32}

/-- `cs` writes a number in decimal digits. -/
inductive Writes : List Char → Nat → Prop
  | digit {d : Nat} (h : d < 10) : Writes [digit d] d
  | more {cs : List Char} {n d : Nat} (hcs : Writes cs n) (h : d < 10) :
      Writes (cs ++ [Decimal.digit d]) (n * 10 + d)

/-- `cs` writes a number in decimal digits, which may have a plus sign in front. -/
def WritesSigned (cs : List Char) (n : Nat) : Prop :=
  Writes cs n ∨ ∃ ds, cs = '+' :: ds ∧ Writes ds n

lemma exists_digit {c : Char} (h : c.isDigit = true) : ∃ d < 10, c = digit d := by
  simp only [Char.isDigit, Bool.and_eq_true, decide_eq_true_eq, UInt32.le_iff_toNat_le] at h
  have hlow : 48 ≤ c.toNat := h.1
  have hhigh : c.toNat ≤ 57 := h.2
  have hd : '0'.toNat + (c.toNat - 48) = c.toNat := Nat.add_sub_cancel' hlow
  exact ⟨c.toNat - 48, by omega, by rw [digit, hd, Char.ofNat_toNat]⟩

lemma writes_iff :
    Writes cs n ↔ cs ≠ [] ∧ (∀ c ∈ cs, c.isDigit = true) ∧ value cs = n := by
  constructor
  · intro h
    induction h with
    | digit h =>
      obtain ⟨hdigit, hvalue⟩ := digit_spec _ h
      refine ⟨by simp, by simpa using hdigit, ?_⟩
      simpa [value] using hvalue
    | more _ h ih =>
      obtain ⟨hdigit, hvalue⟩ := digit_spec _ h
      obtain ⟨-, hall, rfl⟩ := ih
      refine ⟨by simp, fun c hc => ?_, by rw [value_append, hvalue]⟩
      rcases List.mem_append.mp hc with hc | hc
      · exact hall c hc
      · rw [List.mem_singleton.mp hc]
        exact hdigit
  · rintro ⟨hne, hall, rfl⟩
    induction cs using List.reverseRecOn with
    | nil => exact absurd rfl hne
    | append_singleton cs c ih =>
      obtain ⟨d, hd, rfl⟩ := exists_digit (hall c (by simp))
      rw [value_append, (digit_spec d hd).2]
      by_cases hcs : cs = []
      · subst hcs
        simpa [value] using Writes.digit hd
      · exact .more (ih hcs fun c hc => hall c (List.mem_append_left _ hc)) hd

lemma writes_digits (n : Nat) : Writes (digits n) n :=
  writes_iff.mpr ⟨digits_ne_nil n, isDigit_of_mem_digits n, value_digits n⟩

lemma Writes.notMem {c : Char} (h : Writes cs n) (hc : c.isDigit = false) : c ∉ cs := by
  intro hmem
  rw [(writes_iff.mp h).2.1 c hmem] at hc
  cases hc

lemma WritesSigned.notMem {c : Char} (h : WritesSigned cs n) (hc : c.isDigit = false)
    (hplus : c ≠ '+') : c ∉ cs := by
  rcases h with h | ⟨ds, rfl, h⟩
  · exact h.notMem hc
  · rw [List.mem_cons, not_or]
    exact ⟨hplus, h.notMem hc⟩

/-- Only the sign makes a difference. -/
lemma writes_iff_signed : Writes cs n ↔ WritesSigned cs n ∧ '+' ∉ cs := by
  constructor
  · exact fun h => ⟨.inl h, h.notMem rfl⟩
  · rintro ⟨h | ⟨ds, rfl, -⟩, hplus⟩
    · exact h
    · exact absurd List.mem_cons_self hplus

/-- A number of 32 bits is read from its digits, with or without a sign. -/
lemma word?_eq_some_iff : word? cs = some w ↔ WritesSigned cs w.toNat := by
  have hdigits : ∀ ds : List Char,
      (if ds ≠ [] ∧ ds.all Char.isDigit ∧ value ds < wordCount then
        some (UInt32.ofNat (value ds)) else none) = some w ↔ Writes ds w.toNat := by
    intro ds
    rw [writes_iff, Option.ite_none_right_eq_some, Option.some.injEq, List.all_eq_true]
    constructor
    · rintro ⟨⟨hne, hall, hlt⟩, rfl⟩
      exact ⟨hne, hall, (UInt32.toNat_ofNat_of_lt' hlt).symm⟩
    · rintro ⟨hne, hall, hvalue⟩
      rw [hvalue]
      exact ⟨⟨hne, hall, w.toNat_lt⟩, UInt32.ofNat_toNat⟩
  unfold word? WritesSigned
  dsimp only
  rw [hdigits]
  split
  · next ds =>
    -- a plus sign is no digit
    have hsign : ¬ Writes ('+' :: ds) w.toNat := fun h => h.notMem rfl List.mem_cons_self
    simp [hsign]
  · next hsign =>
    rw [or_iff_left]
    rintro ⟨ds, rfl, -⟩
    exact hsign ds rfl

end Decimal

open Decimal (Writes WritesSigned word?_eq_some_iff)

namespace DocumentName

variable {n : DocumentName} {text : String}

/-- A part of a name: lowercase letters, digits, dashes and underscores, at least one of them. -/
def IsNamePart (part : List Char) : Prop :=
  part ≠ [] ∧ ∀ c ∈ part, 'a' ≤ c ∧ c ≤ 'z' ∨ '0' ≤ c ∧ c ≤ '9' ∨ c = '-' ∨ c = '_'

/-- `cs` is `name` or `scope/name`. -/
def Written (n : DocumentName) (cs : List Char) : Prop :=
  IsNamePart n.name.toList ∧
    match n.scope with
    | none => cs = n.name.toList
    | some scope => IsNamePart scope.toList ∧ cs = scope.toList ++ '/' :: n.name.toList

lemma isPart_iff {part : List Char} : isPart part = true ↔ IsNamePart part := by
  have hlower : ∀ c : Char, c.isLower = (decide ('a' ≤ c) && decide (c ≤ 'z')) := fun _ => rfl
  simp [isPart, IsNamePart, isNameChar, hlower, Char.isDigit, Char.le_def, or_assoc]

lemma text_of_ofText? (h : ofText? text = some n) : n.text = text := by
  unfold ofText? at h
  split at h
  · next scope name hsplit =>
    obtain ⟨hcut, -⟩ := splitFirst_eq_some_iff.mp hsplit
    split at h
    · cases h
      rw [← String.toList_inj, hcut]
      simp [DocumentName.text]
    · cases h
  · split at h
    · cases h
      rfl
    · cases h

/-- A name is read exactly from the text that it is written as. -/
lemma ofText?_eq_some_iff : ofText? text = some n ↔ n.Written text.toList := by
  have hproper : ofText? text = some n ↔ n.IsProper ∧ text = n.text := by
    constructor
    · exact fun h => ⟨isProper_of_ofText? h, (text_of_ofText? h).symm⟩
    · rintro ⟨h, rfl⟩
      exact h.ofText?_text
  have hparts : n.IsProper ↔
      (∀ s, n.scope = some s → IsNamePart s.toList) ∧ IsNamePart n.name.toList := by
    simp only [← isPart_iff]
    exact ⟨fun h => ⟨h.scope, h.name⟩, fun h => ⟨h.1, h.2⟩⟩
  rw [hproper, hparts, ← String.toList_inj]
  obtain ⟨_ | scope, name⟩ := n
  · simp [Written, DocumentName.text]
  · simp [Written, DocumentName.text, and_assoc, and_left_comm]

lemma Written.notMem {cs : List Char} {c : Char} (h : n.Written cs) (hc : isNameChar c = false)
    (hslash : c ≠ '/') : c ∉ cs := by
  obtain ⟨hname, h⟩ := h
  have hname := notMem_of_isPart hc (isPart_iff.mpr hname)
  split at h
  · rwa [h]
  · obtain ⟨hscope, rfl⟩ := h
    simp [notMem_of_isPart hc (isPart_iff.mpr hscope), hslash, hname]

end DocumentName

namespace Version

variable {v : Version} {text : String} {cs : List Char}

/-- `cs` is `major.minor` or `major.minor.patch`, each of them written as a `number`. -/
def Written (number : List Char → Nat → Prop) (v : Version) (cs : List Char) : Prop :=
  ∃ major minor, number major v.major.toNat ∧ number minor v.minor.toNat ∧
    match v.patch with
    | none => cs = major ++ '.' :: minor
    | some p => ∃ patch, number patch p.toNat ∧ cs = major ++ '.' :: (minor ++ '.' :: patch)

/-- A version is read exactly from the texts that it is written as, signs included. -/
lemma ofText?_eq_some_iff : ofText? text = some v ↔ v.Written WritesSigned text.toList := by
  have hdot : ∀ {cs n}, WritesSigned cs n → '.' ∉ cs := fun h => h.notMem rfl (by decide)
  unfold ofText? Written
  constructor
  · intro h
    split at h
    · next major minor hsplit =>
      obtain ⟨-, -, hcut⟩ := splitAll_eq_pair_iff.mp hsplit
      obtain ⟨x, hx, h⟩ := Option.bind_eq_some_iff.mp h
      obtain ⟨y, hy, h⟩ := Option.bind_eq_some_iff.mp h
      cases h
      exact ⟨major, minor, word?_eq_some_iff.mp hx, word?_eq_some_iff.mp hy, hcut⟩
    · next major minor patch hsplit =>
      obtain ⟨-, -, -, hcut⟩ := splitAll_eq_triple_iff.mp hsplit
      obtain ⟨x, hx, h⟩ := Option.bind_eq_some_iff.mp h
      obtain ⟨y, hy, h⟩ := Option.bind_eq_some_iff.mp h
      obtain ⟨z, hz, h⟩ := Option.bind_eq_some_iff.mp h
      cases h
      exact ⟨major, minor, word?_eq_some_iff.mp hx, word?_eq_some_iff.mp hy, patch,
        word?_eq_some_iff.mp hz, hcut⟩
    · cases h
  · rintro ⟨major, minor, hmajor, hminor, hcut⟩
    obtain ⟨x, y, _ | z⟩ := v
    · have hparts : splitAll '.' text.toList = [major, minor] :=
        splitAll_eq_pair_iff.mpr ⟨hdot hmajor, hdot hminor, hcut⟩
      simp [hparts, word?_eq_some_iff.mpr hmajor, word?_eq_some_iff.mpr hminor]
    · obtain ⟨patch, hpatch, hcut⟩ := hcut
      have hparts : splitAll '.' text.toList = [major, minor, patch] :=
        splitAll_eq_triple_iff.mpr ⟨hdot hmajor, hdot hminor, hdot hpatch, hcut⟩
      simp [hparts, word?_eq_some_iff.mpr hmajor, word?_eq_some_iff.mpr hminor,
        word?_eq_some_iff.mpr hpatch]

/-- Of the texts of a version those without a sign are in the digits alone. -/
lemma written_iff_signed : v.Written Writes cs ↔ v.Written WritesSigned cs ∧ '+' ∉ cs := by
  unfold Written
  simp only [Decimal.writes_iff_signed]
  constructor
  · rintro ⟨major, minor, ⟨hmajor, hplus⟩, ⟨hminor, hplus'⟩, hcut⟩
    cases hp : v.patch with
    | none =>
      rw [hp] at hcut
      subst hcut
      exact ⟨⟨major, minor, hmajor, hminor, rfl⟩, by simp [hplus, hplus']⟩
    | some p =>
      rw [hp] at hcut
      obtain ⟨patch, ⟨hpatch, hplus''⟩, rfl⟩ := hcut
      exact ⟨⟨major, minor, hmajor, hminor, patch, hpatch, rfl⟩, by simp [hplus, hplus', hplus'']⟩
  · rintro ⟨⟨major, minor, hmajor, hminor, hcut⟩, hplus⟩
    cases hp : v.patch with
    | none =>
      rw [hp] at hcut
      subst hcut
      simp only [List.mem_append, List.mem_cons, not_or] at hplus
      exact ⟨major, minor, ⟨hmajor, hplus.1⟩, ⟨hminor, hplus.2.2⟩, rfl⟩
    | some p =>
      rw [hp] at hcut
      obtain ⟨patch, hpatch, rfl⟩ := hcut
      simp only [List.mem_append, List.mem_cons, not_or] at hplus
      exact ⟨major, minor, ⟨hmajor, hplus.1⟩, ⟨hminor, hplus.2.2.1⟩, patch,
        ⟨hpatch, hplus.2.2.2.2⟩, rfl⟩

/-- A version is read again from its text. -/
lemma ofText?_text (v : Version) : ofText? v.text = some v := by
  have hdigits : ∀ n, WritesSigned (Decimal.digits n) n := fun n => .inl (Decimal.writes_digits n)
  rw [ofText?_eq_some_iff]
  obtain ⟨major, minor, _ | patch⟩ := v
  · exact ⟨_, _, hdigits _, hdigits _, toList_shortText⟩
  · refine ⟨_, _, hdigits _, hdigits _, _, hdigits _, ?_⟩
    simp [Version.text, toList_shortText, Decimal.text]

end Version

namespace ProfileId

variable {id : ProfileId} {text : String} {cs : List Char}

/-- `cs` is `name@version`. -/
def Written (number : List Char → Nat → Prop) (id : ProfileId) (cs : List Char) : Prop :=
  ∃ name version, id.name.Written name ∧ id.version.Written number version ∧
    cs = name ++ '@' :: version

/-- An identity is read exactly from the texts that it is written as, signs included. -/
lemma ofText?_eq_some_iff : ofText? text = some id ↔ id.Written WritesSigned text.toList := by
  unfold ofText? Written
  constructor
  · intro h
    obtain ⟨⟨name, version⟩, hsplit, h⟩ := Option.bind_eq_some_iff.mp h
    obtain ⟨n, hn, h⟩ := Option.bind_eq_some_iff.mp h
    obtain ⟨v, hv, h⟩ := Option.bind_eq_some_iff.mp h
    cases h
    have hn := DocumentName.ofText?_eq_some_iff.mp hn
    have hv := Version.ofText?_eq_some_iff.mp hv
    rw [String.toList_ofList] at hn hv
    exact ⟨name, version, hn, hv, (splitFirst_eq_some_iff.mp hsplit).1⟩
  · rintro ⟨name, version, hname, hversion, hcut⟩
    have hsplit : splitFirst '@' text.toList = some (name, version) :=
      splitFirst_eq_some_iff.mpr ⟨hcut, hname.notMem (by decide) (by decide)⟩
    have hn : DocumentName.ofText? (String.ofList name) = some id.name :=
      DocumentName.ofText?_eq_some_iff.mpr (by rwa [String.toList_ofList])
    have hv : Version.ofText? (String.ofList version) = some id.version :=
      Version.ofText?_eq_some_iff.mpr (by rwa [String.toList_ofList])
    simp [hsplit, hn, hv]

/-- Of the texts of an identity those without a sign have their numbers in the digits alone. -/
lemma written_iff_signed : id.Written Writes cs ↔ id.Written WritesSigned cs ∧ '+' ∉ cs := by
  unfold Written
  simp only [Version.written_iff_signed]
  constructor
  · rintro ⟨name, version, hname, ⟨hversion, hplus⟩, rfl⟩
    have hplus' : '+' ∉ name := hname.notMem (by decide) (by decide)
    exact ⟨⟨name, version, hname, hversion, rfl⟩, by simp [hplus, hplus']⟩
  · rintro ⟨⟨name, version, hname, hversion, rfl⟩, hplus⟩
    simp only [List.mem_append, List.mem_cons, not_or] at hplus
    exact ⟨name, version, hname, ⟨hversion, hplus.2.2⟩, rfl⟩

end ProfileId

/-- **Reading.** A text is read as a name exactly if it is `name` or `scope/name`. It is read as a
version exactly if it is `major.minor` or `major.minor.patch`, and as an identity exactly if it is
`name@version`, where each number fits in 32 bits and is written in decimal digits, with a plus sign
in front or none. A text has such a form with its numbers in the digits alone exactly if it is read
and holds no plus sign. -/
theorem identities_read_iff (text : String) :
    (∀ n, DocumentName.ofText? text = some n ↔ n.Written text.toList) ∧
    (∀ v, Version.ofText? text = some v ↔ v.Written WritesSigned text.toList) ∧
    (∀ id, ProfileId.ofText? text = some id ↔ id.Written WritesSigned text.toList) ∧
    (∀ v, v.Written Writes text.toList ↔ Version.ofText? text = some v ∧ '+' ∉ text.toList) ∧
    ∀ id, id.Written Writes text.toList ↔ ProfileId.ofText? text = some id ∧ '+' ∉ text.toList := by
  refine ⟨fun n => DocumentName.ofText?_eq_some_iff, fun v => Version.ofText?_eq_some_iff,
    fun id => ProfileId.ofText?_eq_some_iff, fun v => ?_, fun id => ?_⟩
  · rw [Version.ofText?_eq_some_iff, Version.written_iff_signed]
  · rw [ProfileId.ofText?_eq_some_iff, ProfileId.written_iff_signed]

/-- An identity is read from a text whose numbers are not in digits alone. -/
theorem signed_number_read : ¬ ∀ id, ProfileId.ofText? "weather@+1.0" = some id ↔
    id.Written Writes "weather@+1.0".toList := by
  intro h
  have hread : ProfileId.ofText? "weather@+1.0" = some ⟨⟨none, "weather"⟩, ⟨1, 0, none⟩⟩ := by
    decide +kernel
  have hplus := (ProfileId.written_iff_signed.mp ((h _).mp hread)).2
  exact hplus (by decide)

/-- **Printing.** A version is read again from its text. What is read from the text of an identity
that was read is the identity without its patch number; the two are compatible and have the same
text. -/
theorem identities_survive_printing :
    (∀ v : Version, Version.ofText? v.text = some v) ∧
    ∀ (text : String) (id : ProfileId), ProfileId.ofText? text = some id →
      ∃ printed, ProfileId.ofText? id.text = some printed ∧
        printed = { id with version := { id.version with patch := none } } ∧
        printed.isCompatible id = true ∧ printed.text = id.text := by
  refine ⟨Version.ofText?_text, fun text id h => ?_⟩
  have hproper := ProfileId.isProper_of_ofText? h
  refine ⟨_, ProfileId.ofText?_text hproper, rfl, ?_, rfl⟩
  exact ProfileId.isCompatible_iff.mpr ⟨rfl, rfl, rfl⟩

theorem identities_survive_printing_weather :
    ProfileId.ofText? "acme/weather@01.2.3" =
        some ⟨⟨some "acme", "weather"⟩, ⟨1, 2, some 3⟩⟩ ∧
      ∃ printed, ProfileId.ofText? (ProfileId.mk ⟨some "acme", "weather"⟩ ⟨1, 2, some 3⟩).text =
          some printed ∧
        printed = ⟨⟨some "acme", "weather"⟩, ⟨1, 2, none⟩⟩ ∧
        printed.isCompatible ⟨⟨some "acme", "weather"⟩, ⟨1, 2, some 3⟩⟩ = true ∧
        printed.text = (ProfileId.mk ⟨some "acme", "weather"⟩ ⟨1, 2, some 3⟩).text := by
  have hread : ProfileId.ofText? "acme/weather@01.2.3" =
      some ⟨⟨some "acme", "weather"⟩, ⟨1, 2, some 3⟩⟩ := by decide +kernel
  exact ⟨hread, identities_survive_printing.2 _ _ hread⟩

end Contracts
