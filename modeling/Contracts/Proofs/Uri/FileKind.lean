import Mathlib.Tactic.Common
import Mathlib.Algebra.Group.Nat.Defs
import Mathlib.Data.List.TakeWhile
import Contracts.Uri.Basic
import Contracts.Proofs.Text.Split

/-!
The kind of a file by its path and by its uri.

A walk picks files by the extensions of their paths, and a load goes by the end of the uri that was
made of the path. The name of the file decides in both cases. The extensions of documents are
letters, so they are the same characters in the bytes of the name, as decoded text and in the
encoded uri; and neither the name nor the extension brings a slash or another dot behind the last
one.
-/

namespace Contracts

open Percent

namespace Utf8

/-- Each byte that follows adds six bits to those read before. -/
lemma exists_le_of_tail {more bits : Nat} {low high : UInt8} {bs : List UInt8} {c : Char}
    (h : (tail more bits low high bs).1 = some c) :
    ∃ n, bits * 64 ^ more ≤ n ∧ c = Char.ofNat n := by
  induction more generalizing bits low high bs with
  | zero => exact ⟨bits, by simp, (Option.some.inj h).symm⟩
  | succ more ih =>
    cases bs with
    | nil => cases h
    | cons b bs =>
      simp only [tail] at h
      split at h
      · obtain ⟨n, hn, hc⟩ := ih h
        refine ⟨n, Nat.le_trans ?_ hn, hc⟩
        rw [Nat.pow_succ', ← Nat.mul_assoc]
        exact Nat.mul_le_mul_right _ (Nat.le_add_right ..)
      · cases h

/-- So it is with a next byte that is known not to be small. -/
lemma exists_le_of_tail_succ {more bits : Nat} {low high : UInt8} {bs : List UInt8} {c : Char}
    (h : (tail (more + 1) bits low high bs).1 = some c) (hlow : 0x80 ≤ low) (hhigh : high ≤ 0xBF) :
    ∃ n, (bits * 64 + (low.toNat - 0x80)) * 64 ^ more ≤ n ∧ c = Char.ofNat n := by
  cases bs with
  | nil => cases h
  | cons b bs =>
    simp only [tail] at h
    split at h
    · next hb =>
      obtain ⟨n, hn, hc⟩ := exists_le_of_tail h
      refine ⟨n, Nat.le_trans (Nat.mul_le_mul_right _ ?_) hn, hc⟩
      rw [UInt8.le_iff_toNat_le] at hlow hhigh
      simp only [UInt8.le_iff_toNat_le] at hb
      have : b.toNat % 64 = b.toNat - 0x80 := by
        simp at hlow hhigh
        omega
      simp at hlow
      omega
    · cases h

lemma lt_of_ofNat {n : Nat} {c : Char} (h : c = Char.ofNat n) (hc : 0 < c.toNat) : c.toNat = n := by
  unfold Char.ofNat at h
  by_cases hvalid : n.isValidChar
  · rw [dif_pos hvalid] at h
    rw [h]
    rfl
  · rw [dif_neg hvalid] at h
    rw [h] at hc
    cases hc

/-- A byte that begins a longer character does not begin one of ASCII. -/
lemma ascii_of_tail {b : UInt8} {bs : List UInt8} {more : Nat} {low high : UInt8} {c : Char}
    (hlead : lead? b = some (more, low, high))
    (h : (tail more (leadBits more b) low high bs).1 = some c) (hc : 0 < c.toNat)
    (hascii : c.toNat < 0x80) : more = 0 ∧ b.toNat = c.toNat := by
  have hlong : ∀ {more bits : Nat} {low high : UInt8}, 0x80 ≤ low → high ≤ 0xBF →
      0x80 ≤ (bits * 64 + (low.toNat - 0x80)) * 64 ^ more →
      (tail (more + 1) bits low high bs).1 ≠ some c := by
    intro more bits low high hlow hhigh hbound h
    obtain ⟨n, hn, hchar⟩ := exists_le_of_tail_succ h hlow hhigh
    have := lt_of_ofNat hchar hc
    omega
  unfold lead? at hlead
  simp only [UInt8.lt_iff_toNat_lt, UInt8.le_iff_toNat_le] at hlead
  split at hlead
  · cases hlead
    exact ⟨rfl, (lt_of_ofNat (Option.some.inj h).symm hc).symm⟩
  split at hlead
  · cases hlead
    refine absurd h (hlong (by decide) (by decide) ?_)
    simp [leadBits] at *
    omega
  split at hlead
  · cases hlead
    exact absurd h (hlong (by decide) (by decide) (by simp; omega))
  split at hlead
  · next hb =>
    cases hlead
    exact absurd h (hlong (by decide) (by decide) (by simp [hb, leadBits]))
  split at hlead
  · cases hlead
    refine absurd h (hlong (by decide) (by decide) ?_)
    simp [leadBits] at *
    omega
  split at hlead
  · cases hlead
    exact absurd h (hlong (by decide) (by decide) (by simp; omega))
  split at hlead
  · cases hlead
    refine absurd h (hlong (by decide) (by decide) ?_)
    simp [leadBits] at *
    omega
  split at hlead
  · next hb =>
    cases hlead
    exact absurd h (hlong (by decide) (by decide) (by simp [hb, leadBits]))
  · cases hlead

/-- Text of ASCII is decoded from the bytes of its characters and from no other ones. -/
lemma bytes_of_decodeParts {cs : List Char} {bs : List UInt8}
    (h : decodeParts bs = cs.map some) (hcs : ∀ c ∈ cs, 0 < c.toNat ∧ c.toNat < 0x80) :
    bs = cs.map fun c => UInt8.ofNat c.toNat := by
  induction cs generalizing bs with
  | nil =>
    cases bs with
    | nil => rfl
    | cons b bs =>
      unfold decodeParts at h
      split at h <;> simp at h
  | cons c cs ih =>
    obtain ⟨hpos, hascii⟩ := hcs c List.mem_cons_self
    cases bs with
    | nil => simp [decodeParts] at h
    | cons b bs =>
      unfold decodeParts at h
      split at h
      · cases h
      · next more low high hlead =>
        obtain ⟨hhead, hrest⟩ := List.cons_eq_cons.mp h
        obtain ⟨rfl, hb⟩ := ascii_of_tail hlead hhead hpos hascii
        have hbs : bs = cs.map _ := ih hrest fun d hd => hcs d (List.mem_cons_of_mem _ hd)
        rw [hbs, List.map_cons, ← hb, UInt8.ofNat_toNat]

lemma eq_map_some_of_mapM {parts : List (Option Char)} {cs : List Char}
    (h : parts.mapM id = some cs) : parts = cs.map some := by
  induction parts generalizing cs with
  | nil => cases h; rfl
  | cons part parts ih =>
    rw [List.mapM_cons] at h
    obtain ⟨c, hc, h⟩ := Option.bind_eq_some_iff.mp h
    obtain ⟨rest, hrest, h⟩ := Option.bind_eq_some_iff.mp h
    cases h
    rw [ih hrest, List.map_cons, show part = some c from hc]

lemma bytes_of_decode? {s : String} {bs : List UInt8} (h : decode? bs = some s)
    (hs : ∀ c ∈ s.toList, 0 < c.toNat ∧ c.toNat < 0x80) :
    bs = s.toList.map fun c => UInt8.ofNat c.toNat := by
  obtain ⟨cs, hcs, rfl⟩ := Option.map_eq_some_iff.mp h
  rw [String.toList_ofList] at hs ⊢
  exact bytes_of_decodeParts (eq_map_some_of_mapM hcs) hs

end Utf8

namespace Kind

/-- The extension of the files of a kind. -/
def extension : Kind → List Char
  | .profile => ['s', 'u', 'p', 'r']
  | .map => ['s', 'u', 'm', 'a']

/-- That extension in the name of a file. -/
def extensionBytes (k : Kind) : List UInt8 := k.extension.map fun c => UInt8.ofNat c.toNat

lemma ofExtension?_eq_some {s : String} {k : Kind} :
    ofExtension? s = some k ↔ s.toList = k.extension := by
  constructor
  · intro h
    unfold ofExtension? at h
    split at h
    · next hs => cases h; rw [hs]; simp [extension]
    · split at h
      · next hs => cases h; rw [hs]; simp [extension]
      · cases h
  · intro h
    cases k with
    | profile =>
      rw [String.toList_inj.mp (h.trans (by simp [extension] : _ = "supr".toList))]
      rfl
    | map =>
      rw [String.toList_inj.mp (h.trans (by simp [extension] : _ = "suma".toList))]
      rfl

/-- An extension is decoded from its own bytes alone. -/
lemma ofExtension?_decode? {ext : List UInt8} {k : Kind} :
    (Utf8.decode? ext).bind ofExtension? = some k ↔ ext = k.extensionBytes := by
  rw [Option.bind_eq_some_iff]
  constructor
  · rintro ⟨s, hs, hk⟩
    rw [ofExtension?_eq_some] at hk
    have hascii : k.extension.all fun c => decide (0 < c.toNat ∧ c.toNat < 0x80) := by
      cases k <;> decide
    rw [extensionBytes, ← hk]
    exact Utf8.bytes_of_decode? hs fun c hc =>
      of_decide_eq_true (List.all_eq_true.mp hascii c (hk ▸ hc))
  · rintro rfl
    refine ⟨String.ofList k.extension, ?_, ofExtension?_eq_some.mpr String.toList_ofList⟩
    cases k <;> decide +kernel

end Kind

/-! ### Names of files -/

namespace Path

variable {name front ext : List UInt8}

/-- No dot is among some bytes. -/
lemma ne_dot_of_notMem {bs : List UInt8} (h : dot ∉ bs) : ∀ b ∈ bs.reverse, (b != dot) = true := by
  intro b hb
  rw [bne_iff_ne]
  rintro rfl
  exact h (List.mem_reverse.mp hb)

lemma afterLastDot?_of_notMem (h : dot ∉ name) : afterLastDot? name = none := by
  have hwhole : name.reverse.takeWhile (· != dot) = name.reverse :=
    List.takeWhile_eq_self_iff.mpr (ne_dot_of_notMem h)
  unfold afterLastDot?
  simp only [hwhole, List.length_reverse]
  exact if_neg (by omega)

/-- An extension needs something in front of its dot. -/
lemma afterLastDot?_append (h : dot ∉ ext) :
    afterLastDot? (front ++ dot :: ext) = if front = [] then none else some ext := by
  have hlast : (front ++ dot :: ext).reverse.takeWhile (· != dot) = ext.reverse := by
    rw [List.reverse_append, List.reverse_cons, List.append_assoc,
      List.takeWhile_append_of_pos (ne_dot_of_notMem h)]
    simp
  unfold afterLastDot?
  simp only [hlast, List.length_reverse, List.reverse_reverse, List.length_append,
    List.length_cons]
  cases front with
  | nil => simp
  | cons b front => simp

lemma exists_lastDot (h : dot ∈ name) : ∃ front ext, name = front ++ dot :: ext ∧ dot ∉ ext := by
  obtain ⟨back, rest, hcut, hback⟩ := List.eq_append_cons_of_mem (List.mem_reverse.mpr h)
  refine ⟨rest.reverse, back.reverse, ?_, by simpa using hback⟩
  rw [← List.reverse_inj, hcut]
  simp

lemma afterLastDot?_eq_some : afterLastDot? name = some ext ↔
    dot ∉ ext ∧ ∃ front, front ≠ [] ∧ name = front ++ dot :: ext := by
  constructor
  · intro h
    by_cases hdot : dot ∈ name
    · obtain ⟨front, tail, rfl, htail⟩ := exists_lastDot hdot
      rw [afterLastDot?_append htail] at h
      split at h
      · cases h
      · next hne =>
        cases h
        exact ⟨htail, front, hne, rfl⟩
    · rw [afterLastDot?_of_notMem hdot] at h
      cases h
  · rintro ⟨hext, front, hne, rfl⟩
    rw [afterLastDot?_append hext, if_neg hne]

end Path

/-! ### Names in uris -/

namespace Percent

variable {bs cs : List UInt8} {c : Char}

/-- Bytes are written one by one. -/
lemma encodeBytes_append (escaped : Char → Bool) (bs cs : List UInt8) :
    encodeBytes escaped (bs ++ cs) = encodeBytes escaped bs ++ encodeBytes escaped cs := by
  simp [encodeBytes]

lemma encodeBytes_cons (escaped : Char → Bool) (b : UInt8) (bs : List UInt8) :
    encodeBytes escaped (b :: bs) = encodeBytes escaped [b] ++ encodeBytes escaped bs :=
  encodeBytes_append escaped [b] bs

/-- In a segment a byte is written as an escape, or as the character that it is. -/
lemma encodeBytes_singleton (b : UInt8) :
    encodeBytes inSegment [b] = escape b ∨
      encodeBytes inSegment [b] = [Char.ofNat b.toNat] ∧ b.toNat < 0x80 ∧
        inSegment (Char.ofNat b.toNat) = false := by
  simp only [encodeBytes, List.flatMap_cons, List.flatMap_nil, List.append_nil]
  split
  · exact .inl rfl
  · next h =>
    rw [not_or, Bool.not_eq_true, UInt8.not_le, UInt8.lt_iff_toNat_lt] at h
    exact .inr ⟨rfl, h⟩

lemma toNat_ofNat_of_lt {n : Nat} (h : n < 0x80) : (Char.ofNat n).toNat = n := by
  have hvalid : n.isValidChar := .inl (by omega)
  unfold Char.ofNat
  rw [dif_pos hvalid]
  rfl

/-- A character that no escape needs stands for itself. -/
lemma mem_encodeBytes (hpercent : c ≠ '%') (hdigit : ∀ n < 16, hexDigit n ≠ c)
    (h : c ∈ encodeBytes inSegment bs) :
    ∃ b ∈ bs, b.toNat = c.toNat ∧ inSegment c = false := by
  induction bs with
  | nil => cases h
  | cons b bs ih =>
    rw [encodeBytes_cons, List.mem_append] at h
    rcases h with h | h
    · rcases encodeBytes_singleton b with hcode | ⟨hcode, hlt, hplain⟩
      · rw [hcode] at h
        have : b.toNat < 256 := b.toNat_lt
        simp only [escape, List.mem_cons, List.not_mem_nil, or_false] at h
        rcases h with h | h | h
        · exact absurd h hpercent
        · exact absurd h.symm (hdigit _ (by omega))
        · exact absurd h.symm (hdigit _ (by omega))
      · rw [hcode, List.mem_singleton] at h
        subst h
        exact ⟨b, List.mem_cons_self, (toNat_ofNat_of_lt hlt).symm, hplain⟩
    · obtain ⟨b', hb', hc⟩ := ih h
      exact ⟨b', List.mem_cons_of_mem _ hb', hc⟩

/-- There is no slash in a segment. -/
lemma slash_notMem_encodeBytes (bs : List UInt8) : '/' ∉ encodeBytes inSegment bs := by
  intro h
  obtain ⟨-, -, -, hplain⟩ := mem_encodeBytes (by decide) (by decide) h
  exact absurd hplain (by decide)

lemma dot_notMem_encodeBytes (h : Path.dot ∉ bs) : '.' ∉ encodeBytes inSegment bs := by
  intro hdot
  obtain ⟨b, hb, hnat, -⟩ := mem_encodeBytes (by decide) (by decide) hdot
  have heq : b.toNat = Path.dot.toNat := hnat
  exact h (UInt8.toNat_inj.mp heq ▸ hb)

lemma encodeBytes_dot : encodeBytes inSegment [Path.dot] = ['.'] := by decide +kernel

/-- How a byte is written tells the byte, and where its writing ends. -/
lemma eq_of_encodeBytes_singleton {b b' : UInt8} {x y : List Char}
    (h : encodeBytes inSegment [b] ++ x = encodeBytes inSegment [b'] ++ y) : b = b' ∧ x = y := by
  have hdigit : ∀ m < 16, ∀ n < 16, hexDigit m = hexDigit n → m = n := by decide
  have hlt : b.toNat < 256 := b.toNat_lt
  have hlt' : b'.toNat < 256 := b'.toNat_lt
  have hpercent : ∀ b : UInt8, inSegment (Char.ofNat b.toNat) = false →
      Char.ofNat b.toNat ≠ '%' := by
    rintro b hb heq
    rw [heq] at hb
    exact absurd hb (by decide)
  rcases encodeBytes_singleton b with hcode | ⟨hcode, hascii, hplain⟩ <;>
    rcases encodeBytes_singleton b' with hcode' | ⟨hcode', hascii', hplain'⟩ <;>
    rw [hcode, hcode'] at h <;>
    simp only [escape, List.cons_append, List.nil_append, List.cons.injEq] at h
  · obtain ⟨-, hhigh, hlow, rfl⟩ := h
    have := hdigit _ (by omega) _ (by omega) hhigh
    have := hdigit _ (by omega) _ (by omega) hlow
    exact ⟨UInt8.toNat_inj.mp (by omega), rfl⟩
  · exact absurd h.1.symm (hpercent b' hplain')
  · exact absurd h.1 (hpercent b hplain)
  · obtain ⟨hchar, rfl⟩ := h
    have := congrArg Char.toNat hchar
    rw [toNat_ofNat_of_lt hascii, toNat_ofNat_of_lt hascii'] at this
    exact ⟨UInt8.toNat_inj.mp this, rfl⟩

/-- Different names are written differently. -/
lemma encodeBytes_inj :
    encodeBytes inSegment bs = encodeBytes inSegment cs ↔ bs = cs := by
  refine ⟨fun h => ?_, fun h => h ▸ rfl⟩
  have hne : ∀ b, encodeBytes inSegment [b] ≠ [] := fun b => by
    rcases encodeBytes_singleton b with hcode | ⟨hcode, -⟩ <;> simp [hcode, escape]
  induction bs generalizing cs with
  | nil =>
    cases cs with
    | nil => rfl
    | cons b cs =>
      rw [encodeBytes_cons] at h
      exact absurd (List.append_eq_nil_iff.mp h.symm).1 (hne b)
  | cons b bs ih =>
    cases cs with
    | nil =>
      rw [encodeBytes_cons] at h
      exact absurd (List.append_eq_nil_iff.mp h).1 (hne b)
    | cons b' cs =>
      rw [encodeBytes_cons, @encodeBytes_cons _ _ cs] at h
      obtain ⟨rfl, hrest⟩ := eq_of_encodeBytes_singleton h
      rw [ih hrest]

lemma encodeBytes_extension (k : Kind) :
    encodeBytes inSegment k.extensionBytes = k.extension := by
  cases k <;> decide +kernel

end Percent

/-! ### Files and their uris -/

section Files

variable {p : Path} {u : Uri} {k : Kind} {name : List UInt8}

/-- The last segment of a path is the last one of its uri. -/
lemma exists_segments?_eq {front : List (List Char)} {segment : List Char}
    (hslash : '/' ∉ segment)
    (hu : u.path.toList = (front ++ [segment]).flatMap ('/' :: ·)) :
    ∃ parts, u.segments? = some (parts ++ [String.ofList segment]) := by
  unfold Uri.segments?
  rw [hu]
  cases front with
  | nil => exact ⟨[], by simp [splitAll_of_notMem hslash]⟩
  | cons first front =>
    obtain ⟨part, parts, hparts⟩ :=
      exists_splitAll_eq (a := first ++ front.flatMap ('/' :: ·)) hslash
    refine ⟨(part :: parts).map String.ofList, ?_⟩
    rw [List.append_assoc] at hparts
    simp [hparts]

lemma Kind.ofUri?_eq {parts : List String} {segment : List Char}
    (h : u.segments? = some (parts ++ [String.ofList segment])) :
    ofUri? u = (splitLast '.' segment).bind fun cut => ofExtension? (String.ofList cut.2) := by
  have hlast : (parts ++ [String.ofList segment]).getLastD "" = String.ofList segment := by simp
  simp only [ofUri?, h, Option.bind_eq_bind, Option.bind_some, hlast, String.toList_ofList]

/-- The uri of a file is one of this machine, and its segments are the components of the path. -/
lemma Uri.ofPath?_eq_some (hu : Uri.ofPath? p = some u) : p.isAbsolute = true ∧
    u.isLocal = true ∧ u.path.toList =
      if (p.components.filterMap Uri.segmentOf?).isEmpty then ['/']
      else (p.components.filterMap Uri.segmentOf?).flatMap ('/' :: ·) := by
  unfold Uri.ofPath? at hu
  split at hu
  · next habsolute =>
    cases hu
    exact ⟨habsolute, rfl, String.toList_ofList⟩
  · cases hu

/-- The name of a file is the last segment of its uri. -/
lemma exists_segments?_of_fileName? (hu : Uri.ofPath? p = some u)
    (hname : p.fileName? = some name) :
    ∃ parts, u.segments? =
      some (parts ++ [String.ofList (Percent.encodeBytes Percent.inSegment name)]) := by
  obtain ⟨-, -, hpath⟩ := Uri.ofPath?_eq_some hu
  unfold Path.fileName? at hname
  split at hname
  · next last hlast =>
    cases hname
    obtain ⟨before, hbefore⟩ := List.getLast?_eq_some_iff.mp hlast
    have hsegments : p.components.filterMap Uri.segmentOf? =
        before.filterMap Uri.segmentOf? ++ [Percent.encodeBytes Percent.inSegment name] := by
      rw [hbefore, List.filterMap_append]
      rfl
    rw [hsegments, if_neg (by simp)] at hpath
    exact exists_segments?_eq (Percent.slash_notMem_encodeBytes name) hpath
  · cases hname

/-- A path without the name of a file leads to the root, or upwards in the end. -/
lemma exists_segments?_of_fileName?_none (hu : Uri.ofPath? p = some u)
    (hname : p.fileName? = none) :
    ∃ parts segment, u.segments? = some (parts ++ [String.ofList segment]) ∧
      (segment = [] ∨ segment = ['.', '.']) := by
  obtain ⟨habsolute, -, hpath⟩ := Uri.ofPath?_eq_some hu
  have hcomponents : p.components = .root :: (Path.cut p.bytes).filterMap Path.componentOf? := by
    unfold Path.components
    dsimp only
    rw [if_pos (by simpa [Path.isAbsolute] using habsolute), List.singleton_append]
  rcases List.eq_nil_or_concat ((Path.cut p.bytes).filterMap Path.componentOf?) with
    hnone | ⟨before, last, hlast⟩
  · rw [hcomponents, hnone] at hpath
    exact ⟨[], [], by simp [Uri.segments?, hpath, Uri.segmentOf?, splitAll], .inl rfl⟩
  · rw [List.concat_eq_append] at hlast
    have hmem : last ∈ (Path.cut p.bytes).filterMap Path.componentOf? := by simp [hlast]
    obtain ⟨part, -, hpart⟩ := List.mem_filterMap.mp hmem
    have hparent : last = .parent := by
      unfold Path.componentOf? at hpart
      split at hpart
      · cases hpart
      · split at hpart
        · exact (Option.some.inj hpart).symm
        · cases hpart
          unfold Path.fileName? at hname
          rw [hcomponents, hlast, ← List.cons_append, List.getLast?_concat] at hname
          cases hname
    have hsegments : p.components.filterMap Uri.segmentOf? =
        before.filterMap Uri.segmentOf? ++ [['.', '.']] := by
      rw [hcomponents, hlast, hparent, List.filterMap_cons, List.filterMap_append]
      rfl
    rw [hsegments, if_neg (by simp)] at hpath
    obtain ⟨parts, hparts⟩ := exists_segments?_eq (by decide) hpath
    exact ⟨parts, _, hparts, .inr rfl⟩

lemma Uri.isSome_filePath?_of_ofPath? (hu : Uri.ofPath? p = some u) :
    (u.filePath?).isSome = true := by
  have hsegments : u.segments?.isSome = true := by
    cases hname : p.fileName? with
    | some name =>
      obtain ⟨parts, hparts⟩ := exists_segments?_of_fileName? hu hname
      simp [hparts]
    | none =>
      obtain ⟨parts, segment, hparts, -⟩ := exists_segments?_of_fileName?_none hu hname
      simp [hparts]
  rw [Uri.filePath?, if_pos (Uri.ofPath?_eq_some hu).2.1, Option.isSome_map]
  exact hsegments

/-- A path is of a kind if its name is something with the extension behind it. -/
lemma Kind.ofPath?_eq_some : ofPath? p = some k ↔ ∃ front, front ≠ [] ∧
    p.fileName? = some (front ++ Path.dot :: k.extensionBytes) := by
  have hdot : Path.dot ∉ k.extensionBytes := by cases k <;> decide +kernel
  have hbind : ofPath? p = (p.fileName?.bind Path.afterLastDot?).bind fun ext =>
    (Utf8.decode? ext).bind ofExtension? := rfl
  rw [hbind]
  constructor
  · intro h
    obtain ⟨ext, hext, hk⟩ := Option.bind_eq_some_iff.mp h
    obtain ⟨name, hname, hlast⟩ := Option.bind_eq_some_iff.mp hext
    obtain rfl := ofExtension?_decode?.mp hk
    obtain ⟨-, front, hne, rfl⟩ := Path.afterLastDot?_eq_some.mp hlast
    exact ⟨front, hne, hname⟩
  · rintro ⟨front, hne, hname⟩
    rw [hname, Option.bind_some, Path.afterLastDot?_append hdot, if_neg hne, Option.bind_some]
    exact ofExtension?_decode?.mpr rfl

/-- The uri of a path is of a kind if the name ends in a dot and the extension. -/
lemma Kind.ofUri?_eq_some (hu : Uri.ofPath? p = some u) : ofUri? u = some k ↔
    ∃ front, p.fileName? = some (front ++ Path.dot :: k.extensionBytes) := by
  have hdot : '.' ∉ k.extension := by cases k <;> decide
  cases hname : p.fileName? with
  | none =>
    obtain ⟨parts, segment, hparts, hsegment⟩ := exists_segments?_of_fileName?_none hu hname
    have hnone : ofUri? u = none := by
      rw [ofUri?_eq hparts]
      rcases hsegment with rfl | rfl <;> decide
    simp [hnone]
  | some name =>
    obtain ⟨parts, hparts⟩ := exists_segments?_of_fileName? hu hname
    rw [ofUri?_eq hparts]
    simp only [Option.bind_eq_some_iff, ofExtension?_eq_some, String.toList_ofList,
      Option.some.injEq]
    constructor
    · rintro ⟨⟨before, _⟩, hsplit, rfl⟩
      by_cases hmem : Path.dot ∈ name
      · obtain ⟨front, ext, rfl, hext⟩ := Path.exists_lastDot hmem
        rw [Percent.encodeBytes_append, Percent.encodeBytes_cons, Percent.encodeBytes_dot,
          List.singleton_append, splitLast_append (Percent.dot_notMem_encodeBytes hext)] at hsplit
        have hext := congrArg Prod.snd (Option.some.inj hsplit)
        rw [← Percent.encodeBytes_extension, Percent.encodeBytes_inj] at hext
        exact ⟨front, by rw [hext]⟩
      · rw [splitLast_eq_none (Percent.dot_notMem_encodeBytes hmem)] at hsplit
        cases hsplit
    · rintro ⟨front, rfl⟩
      refine ⟨(Percent.encodeBytes Percent.inSegment front, k.extension), ?_, rfl⟩
      rw [Percent.encodeBytes_append, Percent.encodeBytes_cons, Percent.encodeBytes_dot,
        Percent.encodeBytes_extension, List.singleton_append]
      exact splitLast_append hdot

end Files

end Contracts
