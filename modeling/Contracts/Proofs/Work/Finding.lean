import Contracts.CommandLine
import Contracts.Proofs.Uri.FileKind

/-!
Which files are found, and which can be loaded.

Scans and the command that parses one file go by paths, and loads go by uris. A name that consists
of a dot and an extension has no extension as a path, but its uri says a kind. There is no other
difference between the two, so all other files that one of them takes are taken by the other one.
-/

namespace Contracts

/-- The name that is nothing but a dot and the extension of a kind. -/
def Kind.bareName (k : Kind) : List UInt8 := Path.dot :: k.extensionBytes

/-- The name of a path is a dot and an extension. -/
def Path.IsBare (p : Path) : Prop := ∃ k : Kind, p.fileName? = some k.bareName

/-- Where there is no document at a uri, a load goes on to read the file as one of a kind. -/
def Uri.LoadsAs (u : Uri) (k : Kind) : Prop :=
  ∀ w : Workspace, w.registry.get? u = none →
    ∃ path, Load.lookup.step? w u = some (w, .more (.reading k path))

variable {p : Path} {u : Uri} {k k' : Kind}

/-- A name has one extension at most. -/
lemma eq_of_extensionBytes {a b : List UInt8}
    (h : a ++ Path.dot :: k.extensionBytes = b ++ Path.dot :: k'.extensionBytes) :
    a = b ∧ k = k' := by
  have hlength : k.extensionBytes.length = k'.extensionBytes.length := by
    cases k <;> cases k' <;> rfl
  obtain ⟨rfl, htail⟩ := List.append_inj' h (by simp [hlength])
  refine ⟨rfl, ?_⟩
  revert htail
  cases k <;> cases k' <;> decide +kernel

/-- A path says the same kind as its uri, unless its name is a dot and an extension. -/
lemma Kind.ofPath?_iff_ofUri? (hu : Uri.ofPath? p = some u) :
    ofPath? p = some k ↔ ofUri? u = some k ∧ ¬ p.IsBare := by
  rw [ofPath?_eq_some, ofUri?_eq_some hu]
  constructor
  · rintro ⟨front, hne, hname⟩
    refine ⟨⟨front, hname⟩, ?_⟩
    rintro ⟨k', hbare⟩
    rw [hname] at hbare
    exact hne (eq_of_extensionBytes (b := []) (Option.some.inj hbare)).1
  · rintro ⟨⟨front, hname⟩, hbare⟩
    refine ⟨front, ?_, hname⟩
    rintro rfl
    exact hbare ⟨k, hname⟩

lemma Uri.loadsAs_iff (hu : Uri.ofPath? p = some u) : u.LoadsAs k ↔ Kind.ofUri? u = some k := by
  obtain ⟨path, hpath⟩ := Option.isSome_iff_exists.mp (Uri.isSome_filePath?_of_ofPath? hu)
  have hstep : ∀ w : Workspace, w.registry.get? u = none → Load.lookup.step? w u =
      some (w, (Kind.ofUri? u).elim (.done (.error (.unrecognizedKind u)))
        fun kind => .more (.reading kind path)) := by
    intro w hnone
    simp only [Load.step?, hnone, hpath]
    cases Kind.ofUri? u <;> rfl
  constructor
  · intro h
    let w : Workspace := .ofStorage (MemoryFiles.storage ⟨[], [], [], [], [], []⟩)
    obtain ⟨path', hreading⟩ := h w rfl
    rw [hstep w rfl] at hreading
    cases hk : Kind.ofUri? u with
    | none => rw [hk] at hreading; cases hreading
    | some kind => rw [hk] at hreading; cases hreading; rfl
  · intro hk w hnone
    exact ⟨path, by rw [hstep w hnone, hk]; rfl⟩

lemma Scan.documentUri?_file (hu : Uri.ofPath? p = some u) :
    documentUri? ⟨p, true⟩ = some u ↔ ∃ k, Kind.ofPath? p = some k := by
  rw [← Option.isSome_iff_exists]
  unfold documentUri?
  simp only [true_and, hu]
  split
  · next h => simp [h]
  · next h => simpa using h

/-- The command that parses a file writes the tree of one that it takes, and refuses others. -/
lemma Report.ofParse_eq_tree {d : Disk} {text : String} {tree : Tree}
    (hread : d.read p = .ok text) (htree : readTree k text = .ok tree)
    (hk : ∀ k', Kind.ofPath? p = some k' → k' = k) :
    ofParse d p = ⟨0, tree.json.pretty ++ "\n", ""⟩ ↔ Kind.ofPath? p = some k := by
  unfold ofParse
  cases hpath : Kind.ofPath? p with
  | none => simp [failure]
  | some k' =>
    obtain rfl := hk k' hpath
    simp [hread, htree]

/-- **Two ways to the kind of a file.** The path of a file and its uri say the same kind exactly if
the name is not a dot and an extension alone; with such a name the path says none, and the uri says
the kind of the extension. So a scan takes exactly those files that can be loaded by their uris and
have another name. And of the files that can be loaded and read, the command that parses a file
writes the trees of exactly those with another name, and it takes no file that cannot be loaded. -/
theorem kinds_agree_iff (p : Path) (u : Uri) (hu : Uri.ofPath? p = some u) :
    (Kind.ofPath? p = Kind.ofUri? u ↔ ¬ p.IsBare) ∧
    (∀ k, p.fileName? = some k.bareName → Kind.ofPath? p = none ∧ Kind.ofUri? u = some k) ∧
    (Scan.documentUri? ⟨p, true⟩ = some u ↔ (∃ k, u.LoadsAs k) ∧ ¬ p.IsBare) ∧
    (∀ k d text tree, u.LoadsAs k → d.read p = .ok text → readTree k text = .ok tree →
      (Report.ofParse d p = ⟨0, tree.json.pretty ++ "\n", ""⟩ ↔ ¬ p.IsBare)) ∧
    ((∀ k, ¬ u.LoadsAs k) → ∀ d, Report.ofParse d p =
      .failure (p.text ++ " is not a .supr or .suma file") none) := by
  have hiff : ∀ k, Kind.ofPath? p = some k ↔ Kind.ofUri? u = some k ∧ ¬ p.IsBare :=
    fun k => Kind.ofPath?_iff_ofUri? hu
  have hbare : ∀ k, p.fileName? = some k.bareName →
      Kind.ofPath? p = none ∧ Kind.ofUri? u = some k := by
    intro k hname
    refine ⟨Option.eq_none_iff_forall_not_mem.mpr fun k' hk' => ?_,
      (Kind.ofUri?_eq_some hu).mpr ⟨[], hname⟩⟩
    exact ((hiff k').mp hk').2 ⟨k, hname⟩
  refine ⟨⟨?_, fun h => ?_⟩, hbare, ?_, fun k d text tree hloads hread htree => ?_, fun h d => ?_⟩
  · rintro hsame ⟨k, hname⟩
    obtain ⟨hnone, hsome⟩ := hbare k hname
    rw [hnone, hsome] at hsame
    cases hsame
  · exact Option.ext fun k => (hiff k).trans (and_iff_left h)
  · simp only [Scan.documentUri?_file hu, Uri.loadsAs_iff hu, hiff, exists_and_right]
  · rw [Uri.loadsAs_iff hu] at hloads
    rw [Report.ofParse_eq_tree hread htree fun k' hk' =>
      Option.some.inj (((hiff k').mp hk').1.symm.trans hloads), hiff, and_iff_right hloads]
  · have hnone : Kind.ofPath? p = none := Option.eq_none_iff_forall_not_mem.mpr fun k hk =>
      h k ((Uri.loadsAs_iff hu).mpr ((hiff k).mp hk).1)
    unfold Report.ofParse
    rw [hnone]

/-- Several dots, dots alone, and characters that a uri escapes. -/
def windingPath : Path := .ofText "/ws/./.suma/../é #1..supr/."

theorem kinds_agree_winding :
    Uri.ofPath? windingPath =
        some ⟨"file", some .none, "/ws/.suma/../%C3%A9%20%231..supr", none, none⟩ ∧
      Kind.ofPath? windingPath =
        Kind.ofUri? ⟨"file", some .none, "/ws/.suma/../%C3%A9%20%231..supr", none, none⟩ := by
  have hu : Uri.ofPath? windingPath =
      some ⟨"file", some .none, "/ws/.suma/../%C3%A9%20%231..supr", none, none⟩ := by
    decide +kernel
  refine ⟨hu, (kinds_agree_iff _ _ hu).1.mpr ?_⟩
  rintro ⟨k, hname⟩
  cases k <;> exact absurd hname (by decide +kernel)

/-- The uri of a file whose name is an extension alone says a kind that the path does not say. -/
theorem bare_kinds_differ : ¬ ∀ p u, Uri.ofPath? p = some u → Kind.ofPath? p = Kind.ofUri? u := by
  intro h
  have hsame := h (.ofText "/ws/.supr") ⟨"file", some .none, "/ws/.supr", none, none⟩
    (by decide +kernel)
  have hpath : Kind.ofPath? (.ofText "/ws/.supr") = none := by decide +kernel
  have huri : Kind.ofUri? ⟨"file", some .none, "/ws/.supr", none, none⟩ = some .profile := by
    decide +kernel
  rw [hpath, huri] at hsame
  cases hsame

end Contracts
