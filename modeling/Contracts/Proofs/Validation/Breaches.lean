import Contracts.Editor.Diagnostic
import Contracts.Proofs.Enumeration

/-!
What the check of a map tells, against the rules that the map may break.

The check goes through the definitions with the names that it has met, so a name counts as repeated
exactly if a definition in front has it. Calls are looked at when all operations are known. Every
rule is about one node, and the rounds of the check and the nodes of each round make up a tree; the
errors are the breaches at its places, one after the other.
-/

namespace Contracts

namespace MapDocument

variable {c : Contract} {m : MapDocument} {item : MapItem} {name : String} {n : Nat}
  {maps operations : List String} {ds : List MapDefinition} {d : MapDefinition}

/-- Whether the definition at an index is of a kind and has a name. -/
def Defines (m : MapDocument) (item : MapItem) (name : String) (index : Nat) : Prop :=
  ∃ d, m.definitions[index]? = some d ∧ d.item = item ∧ d.name = name

/-- The rules that are broken at the definition with index `i`: another one in front of it has its
name, or a map is for no usecase of the contract. -/
inductive DefinitionBreaks (c : Contract) (m : MapDocument) (i : Nat) (d : MapDefinition) :
    List Nat → Issue → Prop
  | repeatedMap (hitem : d.item = .map) (h : ∃ j < i, m.Defines .map d.name j) :
      DefinitionBreaks c m i d [0] ⟨.duplicateMap d.name, some d.location⟩
  | unknownUsecase (hitem : d.item = .map) (h : ∀ u ∈ c.usecases, u.name ≠ d.name) :
      DefinitionBreaks c m i d [1] ⟨.usecaseNotFound d.name c.profile.text, some d.location⟩
  | repeatedOperation (hitem : d.item = .operation) (h : ∃ j < i, m.Defines .operation d.name j) :
      DefinitionBreaks c m i d [0] ⟨.duplicateOperation d.name, some d.location⟩

/-- The rules that a map breaks, each with the issue that tells it. The place of a breach is the
round of the check in which it is found, and then the node: the header, a definition by its index,
or a call by the index of its definition and its own. -/
inductive Breaks (c : Contract) (m : MapDocument) : List Nat → Issue → Prop
  | otherProfile (h : m.header.profile.isCompatible c.profile = false) :
      Breaks c m [0]
        ⟨.profileMismatch m.header.profile.text c.profile.text, some m.header.location⟩
  | definition {i : Nat} {d : MapDefinition} {place : List Nat} {x : Issue}
      (hd : m.definitions[i]? = some d) (h : m.DefinitionBreaks c i d place x) :
      Breaks c m (1 :: i :: place) x
  | unknownOperation {i j : Nat} {d : MapDefinition} {call : CallSite}
      (hd : m.definitions[i]? = some d) (hcall : d.calls[j]? = some call)
      (h : ∀ k, ¬ m.Defines .operation call.operation k) :
      Breaks c m [2, i, j] ⟨.operationNotFound call.operation, some call.location⟩

/-- An operation that no call uses. Its place is its index. -/
inductive Unused (m : MapDocument) : List Nat → Issue → Prop
  | operation {i : Nat} {d : MapDefinition} (hd : m.definitions[i]? = some d)
      (hitem : d.item = .operation)
      (h : ∀ e ∈ m.definitions, ∀ call ∈ e.calls, call.operation ≠ d.name) :
      Unused m [i] ⟨.unusedOperation d.name, some d.location⟩

/-! ### Definitions -/

/-- The names in front of the next definition are those in front of this one, and its own. -/
lemma exists_defines_succ (hd : m.definitions[n]? = some d) :
    (∃ j < n + 1, m.Defines item name j) ↔
      (∃ j < n, m.Defines item name j) ∨ d.item = item ∧ d.name = name := by
  constructor
  · rintro ⟨j, hj, e, he, hitem⟩
    rcases Nat.lt_succ_iff_lt_or_eq.mp hj with hj | rfl
    · exact .inl ⟨j, hj, e, he, hitem⟩
    · cases he.symm.trans hd
      exact .inr hitem
  · rintro (⟨j, hj, h⟩ | h)
    · exact ⟨j, Nat.lt_succ_of_lt hj, h⟩
    · exact ⟨n, Nat.lt_succ_self n, d, hd, h⟩

lemma isNone_usecase? : (c.usecase? name).isNone = true ↔ ∀ u ∈ c.usecases, u.name ≠ name := by
  simp [Contract.usecase?]

/-- A definition of a map is looked at with the names of the maps in front of it. -/
lemma enumerates_map (hitem : d.item = .map)
    (hmaps : ∀ name, name ∈ maps ↔ ∃ j < n, m.Defines .map name j) :
    Enumerates (m.DefinitionBreaks c n d)
      ((if d.name ∈ maps then [⟨.duplicateMap d.name, some d.location⟩] else []) ++
        if (c.usecase? d.name).isNone then
          [⟨.usecaseNotFound d.name c.profile.text, some d.location⟩] else []) := by
  refine ((Enumerates.single [0] _).ite.append (Enumerates.single [1] _).ite ?_).congr
    fun place x => ?_
  · rintro _ _ _ _ ⟨-, rfl, -⟩ ⟨-, rfl, -⟩
    decide
  · rw [hmaps, isNone_usecase?]
    constructor
    · rintro (⟨h, rfl, rfl⟩ | ⟨h, rfl, rfl⟩)
      · exact .repeatedMap hitem h
      · exact .unknownUsecase hitem h
    · rintro (⟨-, h⟩ | ⟨-, h⟩ | ⟨hitem', -⟩)
      · exact .inl ⟨h, rfl, rfl⟩
      · exact .inr ⟨h, rfl, rfl⟩
      · rw [hitem] at hitem'
        cases hitem'

lemma enumerates_operation (hitem : d.item = .operation)
    (hoperations : ∀ name, name ∈ operations ↔ ∃ j < n, m.Defines .operation name j) :
    Enumerates (m.DefinitionBreaks c n d)
      (if d.name ∈ operations then [⟨.duplicateOperation d.name, some d.location⟩] else []) := by
  refine (Enumerates.single [0] _).ite.congr fun place x => ?_
  rw [hoperations]
  constructor
  · rintro ⟨h, rfl, rfl⟩
    exact .repeatedOperation hitem h
  · rintro (⟨hitem', -⟩ | ⟨hitem', -⟩ | ⟨-, h⟩)
    · rw [hitem] at hitem'
      cases hitem'
    · rw [hitem] at hitem'
      cases hitem'
    · exact ⟨h, rfl, rfl⟩

/-- The definitions from the one with index `n` on, where the names in front of it are known. -/
lemma enumerates_definitionIssues (hds : m.definitions.drop n = ds)
    (hmaps : ∀ name, name ∈ maps ↔ ∃ j < n, m.Defines .map name j)
    (hoperations : ∀ name, name ∈ operations ↔ ∃ j < n, m.Defines .operation name j) :
    Enumerates (fun place x => ∃ i e q, n ≤ i ∧ m.definitions[i]? = some e ∧ place = i :: q ∧
      m.DefinitionBreaks c i e q x) (definitionIssues c maps operations ds) := by
  induction ds generalizing n maps operations with
  | nil =>
    refine Enumerates.nil.congr fun place x => (iff_of_false not_false ?_)
    rintro ⟨i, e, q, hi, he, -⟩
    have hlen : m.definitions.length ≤ n := List.drop_eq_nil_iff.mp hds
    rw [List.getElem?_eq_none (Nat.le_trans hlen hi)] at he
    cases he
  | cons d ds ih =>
    have hd : m.definitions[n]? = some d := by
      have h : (m.definitions.drop n)[0]? = m.definitions[n + 0]? := List.getElem?_drop
      rw [hds] at h
      exact h.symm
    have hrest : m.definitions.drop (n + 1) = ds := by
      rw [← List.drop_drop, hds]
      rfl
    -- the issues of `d` come before those of the definitions behind it
    have hjoin : ∀ {xs ys : List Issue}, Enumerates (m.DefinitionBreaks c n d) xs →
        Enumerates (fun place x => ∃ i e q, n + 1 ≤ i ∧ m.definitions[i]? = some e ∧
          place = i :: q ∧ m.DefinitionBreaks c i e q x) ys →
        Enumerates (fun place x => ∃ i e q, n ≤ i ∧ m.definitions[i]? = some e ∧ place = i :: q ∧
          m.DefinitionBreaks c i e q x) (xs ++ ys) := by
      intro xs ys hxs hys
      refine ((hxs.below n).append hys ?_).congr fun place x => ?_
      · rintro _ _ _ _ ⟨q, rfl, -⟩ ⟨i, _, _, hi, -, rfl, -⟩
        exact List.cons_lt_cons_iff.mpr (.inl hi)
      · constructor
        · rintro (⟨q, rfl, hq⟩ | ⟨i, e, q, hi, h⟩)
          · exact ⟨n, d, q, Nat.le_refl n, hd, rfl, hq⟩
          · exact ⟨i, e, q, Nat.le_of_succ_le hi, h⟩
        · rintro ⟨i, e, q, hi, he, rfl, hq⟩
          rcases Nat.eq_or_lt_of_le hi with rfl | hi
          · cases he.symm.trans hd
            exact .inl ⟨q, rfl, hq⟩
          · exact .inr ⟨i, e, q, hi, he, rfl, hq⟩
    unfold definitionIssues
    split
    · next hitem =>
      refine hjoin (enumerates_map hitem hmaps) (ih hrest (fun name => ?_) fun name => ?_)
      · rw [exists_defines_succ hd, List.mem_cons, hmaps, or_comm]
        simp [hitem, eq_comm]
      · rw [exists_defines_succ hd, hoperations]
        simp [hitem]
    · next hitem =>
      refine hjoin (enumerates_operation hitem hoperations)
        (ih hrest (fun name => ?_) fun name => ?_)
      · rw [exists_defines_succ hd, hmaps]
        simp [hitem]
      · rw [exists_defines_succ hd, List.mem_cons, hoperations, or_comm]
        simp [hitem, eq_comm]

/-! ### Calls and operations -/

lemma mem_operationNames : name ∈ m.operationNames ↔ ∃ k, m.Defines .operation name k := by
  simp only [operationNames, List.mem_map, List.mem_filter, beq_iff_eq, Defines]
  constructor
  · rintro ⟨d, ⟨hd, hitem⟩, hname⟩
    obtain ⟨k, hk⟩ := List.mem_iff_getElem?.mp hd
    exact ⟨k, d, hk, hitem, hname⟩
  · rintro ⟨k, d, hk, hitem, hname⟩
    exact ⟨d, ⟨List.mem_of_getElem? hk, hitem⟩, hname⟩

lemma enumerates_callIssues :
    Enumerates (fun place x => ∃ i d j call, m.definitions[i]? = some d ∧
      d.calls[j]? = some call ∧ place = [i, j] ∧ (∀ k, ¬ m.Defines .operation call.operation k) ∧
      x = ⟨.operationNotFound call.operation, some call.location⟩) m.callIssues := by
  have hcalls : m.callIssues = m.definitions.flatMap fun d =>
      (d.calls.filter fun call => call.operation ∉ m.operationNames).map fun call =>
        ⟨.operationNotFound call.operation, some call.location⟩ := by
    rw [callIssues, calls, List.filter_flatMap, List.map_flatMap]
  rw [hcalls]
  refine (Enumerates.flatMap fun d _ => Enumerates.map_filter).congr fun place x => ?_
  simp only [decide_eq_true_eq, mem_operationNames, not_exists]
  constructor
  · rintro ⟨i, d, _, hd, rfl, j, call, hcall, rfl, hnone, rfl⟩
    exact ⟨i, d, j, call, hd, hcall, rfl, hnone, rfl⟩
  · rintro ⟨i, d, j, call, hd, hcall, rfl, hnone, rfl⟩
    exact ⟨i, d, [j], hd, rfl, j, call, hcall, rfl, hnone, rfl⟩

lemma enumerates_unusedIssues : Enumerates m.Unused m.unusedIssues := by
  refine Enumerates.map_filter.congr fun place x => ?_
  have hunused : ∀ d : MapDefinition,
      (d.item == .operation && !(m.calls.any (·.operation == d.name))) = true ↔
        d.item = .operation ∧ ∀ e ∈ m.definitions, ∀ call ∈ e.calls, call.operation ≠ d.name := by
    intro d
    simp [calls]
  simp only [hunused]
  constructor
  · rintro ⟨i, d, hd, rfl, ⟨hitem, h⟩, rfl⟩
    exact .operation hd hitem h
  · rintro ⟨hd, hitem, h⟩
    exact ⟨_, _, hd, rfl, ⟨hitem, h⟩, rfl⟩

/-- The rounds of the check, one after the other. -/
lemma enumerates_errors : Enumerates (Breaks c m) (check c m).errors := by
  have hheader : Enumerates (fun place x => ¬ m.header.profile.isCompatible c.profile = true ∧
      place = [0] ∧ x = ⟨.profileMismatch m.header.profile.text c.profile.text,
        some m.header.location⟩) (headerIssues c m.header) := by
    rw [headerIssues, ← ite_not]
    exact (Enumerates.single [0] _).ite
  have hnone : ∀ item name, name ∈ ([] : List String) ↔ ∃ j < 0, m.Defines item name j := by simp
  have hdefinitions :=
    (enumerates_definitionIssues (c := c) rfl (hnone .map) (hnone .operation)).below 1
  have hcalls := (enumerates_callIssues (m := m)).below 2
  refine ((hheader.append hdefinitions ?_).append hcalls ?_).congr fun place x => ?_
  · rintro _ _ _ _ ⟨-, rfl, -⟩ ⟨_, rfl, -⟩
    exact List.cons_lt_cons_iff.mpr (.inl Nat.zero_lt_one)
  · rintro _ _ _ _ (⟨-, rfl, -⟩ | ⟨_, rfl, -⟩) ⟨_, rfl, -⟩
    · exact List.cons_lt_cons_iff.mpr (.inl Nat.zero_lt_two)
    · exact List.cons_lt_cons_iff.mpr (.inl Nat.one_lt_two)
  · constructor
    · rintro ((⟨hother, rfl, rfl⟩ | ⟨_, rfl, i, d, q, -, hd, rfl, hbreaks⟩) |
        ⟨_, rfl, i, d, j, call, hd, hcall, rfl, hnone, rfl⟩)
      · exact .otherProfile (by simpa using hother)
      · exact .definition hd hbreaks
      · exact .unknownOperation hd hcall hnone
    · rintro (h | ⟨hd, hbreaks⟩ | ⟨hd, hcall, hnone⟩)
      · exact .inl (.inl ⟨by simp [h], rfl, rfl⟩)
      · exact .inl (.inr ⟨_, rfl, _, _, _, Nat.zero_le _, hd, rfl, hbreaks⟩)
      · exact .inr ⟨_, rfl, _, _, _, _, hd, hcall, rfl, hnone, rfl⟩

end MapDocument

namespace Verdict

variable {v : Verdict}

lemma passes_iff : v.passes = true ↔ v.errors = [] := List.isEmpty_iff

/-- Warnings are shown as warnings, so only errors keep a map from passing. -/
lemma passes_iff_diagnostics : v.passes = true ↔ ∀ d ∈ v.diagnostics, d.severity ≠ .error := by
  rw [passes_iff]
  constructor
  · intro h d hd
    rw [diagnostics, h, List.map_nil, List.nil_append] at hd
    obtain ⟨x, -, rfl⟩ := List.mem_map.mp hd
    exact fun hseverity => nomatch hseverity
  · intro h
    refine List.eq_nil_iff_forall_not_mem.mpr fun x hx => ?_
    exact h _ (List.mem_append_left _ (List.mem_map_of_mem hx)) rfl

end Verdict

/-- **The check of a map.** Its errors are the rules that the map breaks, each told once at the node
that breaks it, and its warnings are the operations that no call uses, in their order. The map
passes exactly if it breaks no rule, and exactly if no diagnostic of the verdict is an error. -/
theorem check_tells_breaches (c : Contract) (m : MapDocument) :
    Enumerates (m.Breaks c) (m.check c).errors ∧ Enumerates m.Unused (m.check c).warnings ∧
    ((m.check c).passes = true ↔ ∀ place x, ¬ m.Breaks c place x) ∧
    ((m.check c).passes = true ↔ ∀ d ∈ (m.check c).diagnostics, d.severity ≠ .error) := by
  have herrors : Enumerates (m.Breaks c) (m.check c).errors := MapDocument.enumerates_errors
  refine ⟨herrors, MapDocument.enumerates_unusedIssues, ?_, Verdict.passes_iff_diagnostics⟩
  rw [Verdict.passes_iff, herrors.eq_nil_iff]

end Contracts
