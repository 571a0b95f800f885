import Mathlib.Data.List.Induction
import Contracts.Proofs.Store.Ledger

/-!
What happens to a document over some operations: how often its text is read, and how often its
diagnostics are worked out.

A text is read once, unless what was read is lost. An edit loses it on purpose; clearing the
diagnostics of a map loses it where there are none to clear.
-/

namespace Contracts

namespace Document

/-- Whether the tree of the text is not known, as a number. -/
def unread (d : Document) : Nat := if d.stage.tree? = none then 1 else 0

variable {d : Document}

lemma forgetFor_checks {key? : Option String} : (d.forgetFor key?).checks = d.checks := by
  unfold forgetFor
  split <;> simp

lemma forgetOnArrival_frame {arrived : Bool} :
    (d.forgetOnArrival arrived).checks = d.checks ∧ (d.forgetOnArrival arrived).reads = d.reads ∧
      (d.forgetOnArrival arrived).unread = d.unread := by
  unfold forgetOnArrival
  split
  · cases hu : d.stage.isUnresolved with
    | false => rw [forgetUnresolved_of_resolved hu]; exact ⟨rfl, rfl, rfl⟩
    | true =>
      rw [forgetUnresolved_of_unresolved hu]
      refine ⟨forgetDiagnostics_checks, forgetDiagnostics_reads, ?_⟩
      rw [unread, (forgetDiagnostics_of_known (isUnresolved_diagnostics? hu)).1, unread]
  · exact ⟨rfl, rfl, rfl⟩

/-- Making the outline of a document reads its text if it is unread. -/
lemma outline_reads_add : d.outline.2.reads + d.outline.2.unread = d.reads + d.unread := by
  rw [outline_reads, unread, if_neg outline_tree?, unread, Nat.add_zero]

lemma keepDiagnostics_frame {ds : List Diagnostic} {u : Bool} :
    (d.keepDiagnostics ds u).checks = d.checks ∧ (d.keepDiagnostics ds u).reads = d.reads := by
  unfold keepDiagnostics
  split <;> exact ⟨rfl, rfl⟩

lemma keepDiagnostics_unread {t : Except SyntaxError Tree}
    {o : Except SyntaxError (List Symbol)} {ds : List Diagnostic} {u : Bool}
    (h : d.stage = .outlined t o) : (d.keepDiagnostics ds u).unread = d.unread := by
  rw [keepDiagnostics_of_outlined h]
  simp [unread, h, Stage.tree?]

end Document

namespace Operation

open Document

variable {r : Registry} {op : Operation} {d : Document}

/-- Whether a document loses what was read, although its text stays as it is: it is a map whose
namespace is invalidated while it has no diagnostics to forget. -/
def discards (r : Registry) (op : Operation) (d : Document) : Bool :=
  d.kind = .map ∧ d.stage.diagnostics? = none ∧ op.invalidated? r ≠ none ∧
    d.knownNamespace? = op.invalidated? r

/-- Where outlines are made nothing is invalidated. -/
lemma invalidated?_of_outlines (h : op.outlines r d = true) : op.invalidated? r = none := by
  cases op with
  | lookThrough kind => rfl
  | outline id => rfl
  | diagnose uri =>
    simp only [outlines, decide_eq_true_eq] at h
    obtain ⟨-, h⟩ := h
    cases hg : r.get? uri with
    | none => simp [invalidated?, hg]
    | some e =>
      rw [hg] at h
      have hk : e.kind = .map := by simp_all
      simp [invalidated?, hg, hk]
  | _ => cases h

lemma bystander_checks : (op.bystander r d).checks = d.checks := by
  unfold bystander
  rw [forgetOnArrival_frame.1, forgetFor_checks]
  split
  · exact outline_checks
  · rfl

/-- Diagnostics are worked out exactly where it is counted. -/
lemma effect_checks :
    (op.effect r d).checks = d.checks + if op.examines d = true then 1 else 0 := by
  cases op with
  | update uri edits version =>
    unfold effect examines
    dsimp only
    split
    · rfl
    · exact bystander_checks
  | diagnose uri =>
    unfold effect
    dsimp only
    split
    · next h =>
      rw [if_pos (by simpa [examines] using h), keepDiagnostics_frame.1, outline_checks]
    · next h =>
      rw [if_neg (by simpa [examines] using h), bystander_checks, Nat.add_zero]
  | _ => exact bystander_checks

lemma forgetFor_reads_add {key? : Option String} :
    (d.forgetFor key?).reads + (d.forgetFor key?).unread = d.reads + d.unread +
      if d.kind = .map ∧ d.stage.diagnostics? = none ∧ key? ≠ none ∧ d.knownNamespace? = key?
      then 1 else 0 := by
  unfold forgetFor
  split
  · next h =>
    obtain ⟨hk, hne, hkn⟩ := h
    rw [forgetDiagnostics_reads]
    by_cases hn : d.stage.diagnostics? = none
    · have ho : d.stage.outline? ≠ none := fun ho =>
        hne (hkn.symm.trans (knownNamespace?_eq_none ho))
      rw [if_pos ⟨hk, hn, hne, hkn⟩, unread, forgetDiagnostics_of_unknown hn, unread,
        if_neg (Stage.tree?_of_outline? ho)]
      rfl
    · rw [if_neg fun h => hn h.2.1, unread, (forgetDiagnostics_of_known hn).1, unread, Nat.add_zero]
  · next h => rw [if_neg fun hc => h ⟨hc.1, hc.2.2⟩, Nat.add_zero]

lemma bystander_reads_add :
    (op.bystander r d).reads + (op.bystander r d).unread =
      d.reads + d.unread + if op.discards r d = true then 1 else 0 := by
  unfold bystander
  rw [forgetOnArrival_frame.2.1, forgetOnArrival_frame.2.2, forgetFor_reads_add]
  by_cases ho : op.outlines r d = true
  · have hi := invalidated?_of_outlines ho
    rw [if_pos ho, if_neg fun h => h.2.2.1 hi, if_neg (by simp [discards, hi]), outline_reads_add]
  · rw [if_neg ho]
    simp [discards]

/-- Of the document that an operation is about nothing is lost but by an edit. -/
lemma discards_of_edits (hr : r.WellFormed) (hd : d ∈ r.documents) (h : op.edits d = true) :
    op.discards r d = false := by
  obtain ⟨changes, version, rfl, hv⟩ := edits_iff.mp h
  have hget : r.get? d.uri = some d := (Registry.get?_eq_some hr).mpr ⟨hd, rfl⟩
  by_cases hk : d.kind = .map
  · simp [discards, invalidated?, hget, definedNamespace?, hk]
  · simp [discards, hk]

lemma discards_of_examines (hr : r.WellFormed) (hd : d ∈ r.documents) (h : op.examines d = true) :
    op.discards r d = false := by
  obtain ⟨rfl, hn⟩ := examines_iff.mp h
  have hget : r.get? d.uri = some d := (Registry.get?_eq_some hr).mpr ⟨hd, rfl⟩
  by_cases hk : d.kind = .map
  · simp [discards, invalidated?, hget, hk]
  · simp [discards, hk]

lemma effect_of_neither (he : op.edits d = false) (hx : op.examines d = false) :
    op.effect r d = op.bystander r d := by
  cases op with
  | update uri changes version =>
    have hn : ¬ (d.uri = uri ∧ d.version < version) := by simpa [edits] using he
    simp only [effect, if_neg hn]
  | diagnose uri =>
    have hn : ¬ (d.uri = uri ∧ d.stage.diagnostics? = none) := by simpa [examines] using hx
    simp only [effect, if_neg hn]
  | _ => rfl

/-- Working diagnostics out reads the text if it is unread. -/
lemma effect_reads_of_examines (hd : d.Derived) (h : op.examines d = true) :
    (op.effect r d).reads + (op.effect r d).unread = d.reads + d.unread := by
  obtain ⟨rfl, hn⟩ := examines_iff.mp h
  have hexamined : (Registry.examined d).reads + (Registry.examined d).unread =
      d.reads + d.unread :=
    outline_reads_add (d := { d with checks := d.checks + 1 })
  have hstage := Registry.examined_stage hd hn
  simp only [effect, hn, and_self, if_true]
  rw [keepDiagnostics_frame.2]
  exact (congrArg _ (keepDiagnostics_unread hstage)).trans hexamined

/-- **What becomes of the reads of a document** in one operation. A text that is unread counts as
one that is about to be read. -/
lemma effect_reads_add (op : Operation) (hr : r.WellFormed) (hd : d ∈ r.documents) :
    (op.effect r d).reads + (op.effect r d).unread + (if op.edits d = true then d.unread else 0) =
      d.reads + d.unread + (if op.edits d = true then 1 else 0) +
        if op.discards r d = true then 1 else 0 := by
  by_cases he : op.edits d = true
  · rw [discards_of_edits hr hd he]
    simp only [he, if_true, Bool.false_eq_true, if_false]
    obtain ⟨changes, version, rfl, hv⟩ := edits_iff.mp he
    have hnew : (d.edited changes version).unread = 1 := rfl
    have hreads : (d.edited changes version).reads = d.reads := rfl
    simp only [effect, hv, and_self, if_true]
    omega
  · rw [if_neg he, if_neg he, Nat.add_zero, Nat.add_zero]
    by_cases hx : op.examines d = true
    · rw [effect_reads_of_examines (hr.derived_of_mem hd) hx, discards_of_examines hr hd hx]
      rfl
    · rw [effect_of_neither (by simpa using he) (by simpa using hx), bystander_reads_add]

end Operation

namespace Registry

open Document

variable {r : Registry} {op : Operation} {d e : Document}

/-! ### Diagnostics over many operations -/

/-- A map of a namespace that is invalidated keeps no diagnostics. -/
lemma forgotten {key : String} (hk : d.kind = .map) (hkn : d.knownNamespace? = some key)
    (hcached : d.stage.diagnostics? ≠ none) (hi : op.invalidated? r = some key) :
    (op.effect r d).stage.diagnostics? = none := by
  by_contra hn
  rcases effect_of_diagnosed hn with ⟨hx, -⟩ | ⟨-, -, hsp⟩
  · exact hcached (Operation.examines_iff.mp hx).2
  · exact hsp.namespaces hk key hkn hi

lemma nextId_le_run (hr : r.WellFormed) (ops : List Operation) :
    r.nextId ≤ (r.run ops).nextId := by
  induction ops generalizing r with
  | nil => exact Nat.le_refl _
  | cons op ops ih =>
    have hstep : r.nextId ≤ (r.apply op).nextId := by
      rw [nextId_apply hr]
      exact Nat.le_add_right _ _
    exact hstep.trans (ih (hr.apply op))

lemma id_lt_run (hr : r.WellFormed) (hd : d ∈ r.documents) (ops : List Operation) :
    d.id < (r.run ops).nextId :=
  lt_of_lt_of_le (hr.id_lt hd) (nextId_le_run hr ops)

/-- A registered document was registered under its id before, unless it is new. -/
lemma mem_documents_apply_of_id (hr : r.WellFormed) (he : e ∈ (r.apply op).documents)
    (hid : e.id < r.nextId) : ∃ d ∈ r.documents, d.id = e.id ∧ e = op.effect r d := by
  rcases (mem_documents_apply hr).mp he with harr | ⟨d, hd, -, rfl⟩
  · rw [(arrival?_eq_some harr).1] at hid
    exact absurd hid (Nat.lt_irrefl _)
  · exact ⟨d, hd, (effect_identity op).1.symm, rfl⟩

/-- Diagnostics that are not known are worked out before they are known again. -/
theorem checks_run (hr : r.WellFormed) (hd : d ∈ r.documents) (hn : d.stage.diagnostics? = none)
    (ops : List Operation) :
    ∀ e ∈ (r.run ops).documents, e.id = d.id →
      d.checks < e.checks ∨ e.stage.diagnostics? = none ∧ e.checks = d.checks := by
  induction ops using List.reverseRecOn with
  | nil =>
    intro e he hid
    rw [hr.eq_of_id he hd hid]
    exact .inr ⟨hn, rfl⟩
  | append_singleton ops op ih =>
    intro e he hid
    rw [run_append] at he
    obtain ⟨x, hx, hxid, rfl⟩ :=
      mem_documents_apply_of_id (hr.run ops) he (hid ▸ id_lt_run hr hd ops)
    rw [Operation.effect_checks]
    rcases ih x hx (hxid.trans hid) with hlt | ⟨hnone, heq⟩
    · exact .inl (by omega)
    by_cases hex : op.examines x = true
    · rw [if_pos hex]
      exact .inl (by omega)
    · rw [if_neg hex]
      refine .inr ⟨?_, heq⟩
      by_contra hne
      rcases effect_of_diagnosed hne with ⟨hx, -⟩ | ⟨-, -, hsp⟩
      · exact hex hx
      · exact hsp.known hnone

/-- Only working its diagnostics out is counted for a document. -/
lemma checks_of_not_mem (hr : r.WellFormed) (hd : d ∈ r.documents) {ops : List Operation}
    (h : .diagnose d.uri ∉ ops) :
    ∀ e ∈ (r.run ops).documents, e.id = d.id → e.uri = d.uri ∧ e.checks = d.checks := by
  induction ops using List.reverseRecOn with
  | nil =>
    intro e he hid
    rw [hr.eq_of_id he hd hid]
    exact ⟨rfl, rfl⟩
  | append_singleton ops op ih =>
    intro e he hid
    rw [run_append] at he
    obtain ⟨x, hx, hxid, rfl⟩ :=
      mem_documents_apply_of_id (hr.run ops) he (hid ▸ id_lt_run hr hd ops)
    obtain ⟨hu, hc⟩ := ih (fun hm => h (List.mem_append_left _ hm)) x hx (hxid.trans hid)
    refine ⟨(effect_identity op).2.1.trans hu, ?_⟩
    rw [Operation.effect_checks, if_neg, hc, Nat.add_zero]
    intro hex
    refine h (List.mem_append_right _ ?_)
    rw [(Operation.examines_iff.mp hex).1, hu]
    exact List.mem_singleton_self _

/-- Where they are not known, asking for diagnostics works them out and counts it. -/
lemma diagnose_counts (hr : r.WellFormed) (hd : d ∈ r.documents)
    (hn : d.stage.diagnostics? = none) :
    (r.diagnose d).1 = .ok (r.verdict d).1 ∧
      ∃ e ∈ (r.diagnose d).2.documents, e.id = d.id ∧ e.checks = d.checks + 1 := by
  obtain ⟨hanswer, hdocs⟩ := diagnose_eq hr ((get?_eq_some hr).mpr ⟨hd, rfl⟩) hn
  refine ⟨hanswer, (Operation.diagnose d.uri).effect r d, ?_, (effect_identity _).1, ?_⟩
  · rw [hdocs]
    exact List.mem_map_of_mem hd
  · rw [Operation.effect_checks, if_pos (Operation.examines_iff.mpr ⟨rfl, hn⟩)]

/-! ### Reads over many operations -/

/-- How often it happens, over some operations, to the registered document of an id. -/
def tally (happens : Registry → Operation → Document → Bool) (id : Nat) (r : Registry) :
    List Operation → Nat
  | [] => 0
  | op :: ops =>
    (if r.documents.any (fun d => d.id = id ∧ happens r op d) then 1 else 0) +
      tally happens id (r.apply op) ops

/-- How often the document of an id was edited. -/
def edits (id : Nat) (ops : List Operation) : Nat :=
  tally (fun _ op d => op.edits d) id empty ops

/-- How often an edit replaced a text that had not been read. -/
def idleEdits (id : Nat) (ops : List Operation) : Nat :=
  tally (fun _ op d => op.edits d && d.unread == 1) id empty ops

/-- How often what had been read was lost while the text stayed as it was. -/
def losses (id : Nat) (ops : List Operation) : Nat :=
  tally (fun r op d => op.discards r d) id empty ops

variable {happens : Registry → Operation → Document → Bool} {id : Nat}

lemma any_of_id (hr : r.WellFormed) (hd : d ∈ r.documents) (q : Document → Bool) :
    r.documents.any (fun e => e.id = d.id ∧ q e) = q d := by
  rw [Bool.eq_iff_iff, List.any_eq_true]
  constructor
  · rintro ⟨e, he, h⟩
    obtain ⟨hid, hq⟩ : e.id = d.id ∧ q e = true := by simpa using h
    rwa [hr.eq_of_id he hd hid] at hq
  · exact fun hq => ⟨d, hd, by simpa using hq⟩

lemma any_of_none {q : Document → Bool} (h : ∀ e ∈ r.documents, e.id = id → q e = false) :
    r.documents.any (fun e => e.id = id ∧ q e) = false := by
  rw [List.any_eq_false]
  intro e he hc
  obtain ⟨hid, hq⟩ : e.id = id ∧ q e = true := by simpa using hc
  rw [h e he hid] at hq
  cases hq

lemma tally_append (ops : List Operation) :
    tally happens id r (ops ++ [op]) = tally happens id r ops +
      if (r.run ops).documents.any (fun d => d.id = id ∧ happens (r.run ops) op d) then 1
      else 0 := by
  induction ops generalizing r with
  | nil =>
    simp only [List.nil_append, tally, run_nil, Nat.add_zero, Nat.zero_add]
    rfl
  | cons o ops ih =>
    rw [List.cons_append, tally, tally, ih, run_cons]
    omega

/-- Nothing happened yet to a document that is to come. -/
lemma tally_of_fresh (hr : r.WellFormed) {ops : List Operation} (h : (r.run ops).nextId ≤ id) :
    tally happens id r ops = 0 := by
  induction ops generalizing r with
  | nil => rfl
  | cons op ops ih =>
    have hle := nextId_le_run hr (op :: ops)
    rw [tally, ih (hr.apply op) h, any_of_none]
    · rfl
    · intro e he hid
      have := hr.id_lt he
      omega

lemma discards_of_not_keeps (hr : r.WellFormed) (hd : d ∈ r.documents) (h : op.keeps d = false) :
    op.edits d = false ∧ op.discards r d = false := by
  have hget : r.get? d.uri = some d := (get?_eq_some hr).mpr ⟨hd, rfl⟩
  have hmap : d.kind = .map → d.definedNamespace? = none := fun hk => by
    simp [definedNamespace?, hk]
  cases op with
  | create uri kind version text =>
    obtain rfl : d.uri = uri := by simpa [Operation.keeps] using h
    refine ⟨rfl, ?_⟩
    by_cases hk : d.kind = .map
    · simp [Operation.discards, Operation.invalidated?, hget, hmap hk]
    · simp [Operation.discards, hk]
  | remove uri =>
    obtain rfl : d.uri = uri := by simpa [Operation.keeps] using h
    refine ⟨rfl, ?_⟩
    by_cases hk : d.kind = .map
    · simp [Operation.discards, Operation.invalidated?, hget, hmap hk]
    · simp [Operation.discards, hk]
  | _ => cases h

lemma outside_reads_add : (op.outside d).reads + (op.outside d).unread = d.reads + d.unread := by
  unfold Operation.outside
  split
  · split
    · exact outline_reads_add
    · rfl
  · rfl

/-- The reads of a document against its edits and losses. A text that nobody has read yet counts as
one that is about to be read. -/
def ReadsAddUp (ops : List Operation) (d : Document) : Prop :=
  d.reads + d.unread + idleEdits d.id ops = 1 + edits d.id ops + losses d.id ops

variable {ops : List Operation}

lemma readsAddUp_of_arrival (h : op.arrival? (empty.run ops) = some d) :
    ReadsAddUp (ops ++ [op]) d := by
  have hr := wellFormed_empty.run ops
  obtain ⟨hid, hstage, hreads, -⟩ := arrival?_eq_some h
  -- nothing was counted for the id of a new document
  have hno : ∀ q : Document → Bool, ∀ e ∈ (empty.run ops).documents, e.id = d.id → q e = false :=
    fun q e he h => by
      have := hr.id_lt he
      omega
  have hfresh : (empty.run ops).nextId ≤ d.id := le_of_eq hid.symm
  have hunread : d.unread = 1 := by rw [unread, hstage]; rfl
  unfold ReadsAddUp idleEdits edits losses
  simp only [tally_append, any_of_none (hno _), tally_of_fresh wellFormed_empty hfresh, hreads,
    hunread, Bool.false_eq_true, if_false]

lemma ReadsAddUp.effect (hd : d ∈ (empty.run ops).documents) (h : ReadsAddUp ops d) :
    ReadsAddUp (ops ++ [op]) (op.effect (empty.run ops) d) := by
  have hr := wellFormed_empty.run ops
  have hstep := Operation.effect_reads_add op hr hd
  have hidle : (if (op.edits d && d.unread == 1) = true then 1 else 0) =
      if op.edits d = true then d.unread else 0 := by
    have hu : d.unread = 0 ∨ d.unread = 1 := by unfold unread; split <;> simp
    cases op.edits d <;> rcases hu with hu | hu <;> simp [hu]
  unfold ReadsAddUp idleEdits edits losses at h ⊢
  rw [(effect_identity op).1]
  simp only [tally_append, any_of_id hr hd]
  omega

/-- To a document outside the registry nothing happens but that its outline is made. -/
lemma ReadsAddUp.elsewhere (h : ReadsAddUp ops d) (hid : e.id = d.id)
    (hreads : e.reads + e.unread = d.reads + d.unread)
    (hnone : ∀ x ∈ (empty.run ops).documents, x.id = d.id →
      op.edits x = false ∧ op.discards (empty.run ops) x = false) :
    ReadsAddUp (ops ++ [op]) e := by
  have hidle : ∀ x ∈ (empty.run ops).documents, x.id = d.id →
      (op.edits x && x.unread == 1) = false :=
    fun x hx hxid => by rw [(hnone x hx hxid).1]; rfl
  unfold ReadsAddUp idleEdits edits losses at h ⊢
  rw [hid]
  simp only [tally_append, any_of_none hidle, any_of_none fun x hx hxid => (hnone x hx hxid).1,
    any_of_none fun x hx hxid => (hnone x hx hxid).2, Bool.false_eq_true, if_false]
  omega

/-- **How often a text was read**: once for the text that came first and once for each edit, and
once more for each time that a tree was lost. -/
theorem readsAddUp_run (ops : List Operation) :
    ∀ d ∈ (empty.run ops).documents ++ (empty.run ops).detached, ReadsAddUp ops d := by
  induction ops using List.reverseRecOn with
  | nil => intro d hd; cases hd
  | append_singleton ops op ih =>
    intro d hd
    have hr := wellFormed_empty.run ops
    rw [run_append, run_cons, run_nil] at hd
    rcases List.mem_append.mp hd with hd | hd
    · rcases (mem_documents_apply hr).mp hd with harr | ⟨e, he, -, rfl⟩
      · exact readsAddUp_of_arrival harr
      · exact (ih e (List.mem_append_left _ he)).effect he
    rw [detached_apply hr] at hd
    rcases List.mem_append.mp hd with hd | hd
    · obtain ⟨e, he, rfl⟩ := List.mem_map.mp hd
      exact (ih e (List.mem_append_right _ he)).elsewhere (outside_id op) outside_reads_add
        fun x hx hxid => absurd hxid (hr.id_ne hx he)
    · obtain ⟨hd, hk⟩ := List.mem_filter.mp hd
      refine (ih d (List.mem_append_left _ hd)).elsewhere rfl rfl fun x hx hxid => ?_
      rw [hr.eq_of_id hx hd hxid]
      exact discards_of_not_keeps hr hd (by simpa using hk)

end Registry

end Contracts
