import Contracts.Proofs.Server.Handling

/-!
What the editor is shown while a message is handled.

To show the diagnostics of a document may make maps forget theirs, but those are only the maps of
the profile's namespace, and all that are open come next. So in the end the editor has been shown
what is due for the document and for the open maps of its namespace, and for every other one both
what was shown and what is due are as they were.
-/

namespace Contracts

/-- The diagnostics of a document that were shown last. -/
def lastShown? (sent : List Message) (uri : Uri) : Option (List Diagnostic) :=
  sent.reverse.findSome? fun
    | .publish u ds _ => if u = uri then some ds else none
    | _ => none

lemma lastShown?_append (sent : List Message) (u uri : Uri) (ds : List Diagnostic)
    (version : Option Int) :
    lastShown? (sent ++ [.publish u ds version]) uri =
      if u = uri then some ds else lastShown? sent uri := by
  unfold lastShown?
  rw [List.reverse_append, List.reverse_singleton, List.singleton_append, List.findSome?_cons]
  split <;> simp_all

/-- What happens to the document at `uri` is of concern to it, and to the maps of the namespace if
it is a profile. -/
def Registry.Concerns (r : Registry) (uri u : Uri) : Prop :=
  u = uri ∨ ∃ key, r.Defines uri key ∧ r.Targets u key

/-- A profile has left the namespace of the map at `u`. -/
def Registry.Abandons (r r' : Registry) (u : Uri) : Prop :=
  ∃ w key, r.Defines w key ∧ r.Targets u key ∧ ¬ r'.Defines w key

namespace View

open Registry

variable {v v' v'' : View} {uri u : Uri} {uris : List Uri} {d : Document} {key : String}

/-- The diagnostics of a document that are to be shown. -/
def due? (v : View) (uri : Uri) : Option (List Diagnostic) :=
  (v.workspace.registry.answer? uri).map (limitDiagnostics v.maxProblems)

def shown? (v : View) (uri : Uri) : Option (List Diagnostic) := lastShown? v.sent uri

/-! ### One document -/

lemma display_eq (hr : v.workspace.registry.WellFormed)
    (hg : v.workspace.registry.get? uri = some d) :
    v.display uri = (v.withRegistry (v.workspace.registry.apply (.diagnose uri))).publish uri
      (v.workspace.registry.standing d) := by
  have hds := diagnose_fst hr ((get?_eq_some hr).mp hg).1
  have happly : v.workspace.registry.apply (.diagnose uri) =
      (v.workspace.registry.diagnose d).2 := by simp [Registry.apply, hg]
  unfold display
  rw [hg, happly]
  rcases hdiag : v.workspace.registry.diagnose d with ⟨ds, r⟩
  rw [hdiag] at hds
  simp only [hdiag]
  rw [show ds = .ok _ from hds]

/-- The document is shown with what was due, and no other is. -/
lemma shown?_display (hr : v.workspace.registry.WellFormed)
    (hg : (v.workspace.registry.get? uri).isSome = true) (u : Uri) :
    (v.display uri).shown? u = if uri = u then v.due? uri else v.shown? u := by
  obtain ⟨d, hd⟩ := Option.isSome_iff_exists.mp hg
  have hdue : v.due? uri =
      some (limitDiagnostics v.maxProblems (v.workspace.registry.standing d)) := by
    simp [due?, answer?, hd]
  rw [display_eq hr hd, hdue]
  exact lastShown?_append ..

lemma display_quietly (hr : v.workspace.registry.WellFormed)
    (hg : (v.workspace.registry.get? uri).isSome = true) : v.Quietly (v.display uri) := by
  obtain ⟨d, hd⟩ := Option.isSome_iff_exists.mp hg
  rw [display_eq hr hd]
  exact ⟨rfl, rfl, rfl, [.diagnose uri], by simp [Operation.isQuiet], rfl⟩

/-- What is due stays where the document is no profile of the namespace. -/
lemma due?_display (hb : v.workspace.registry.Backed)
    (hg : (v.workspace.registry.get? uri).isSome = true)
    (hu : u = uri ∨ ¬ v.workspace.registry.Concerns uri u) :
    (v.display uri).due? u = v.due? u := by
  have hr := hb.wellFormed
  obtain ⟨d, hd⟩ := Option.isSome_iff_exists.mp hg
  have hanswer : (v.workspace.registry.apply (.diagnose uri)).answer? u =
      v.workspace.registry.answer? u := by
    refine answer?_of_quiet hb rfl fun e he key hkey hi => ?_
    simp only [Operation.invalidated?, hd, Option.bind_some] at hi
    split at hi
    · next hk =>
      have hdef : d.defines key = true := by simp [Document.defines, hk.1, hi]
      rcases hu with rfl | hu
      · cases hd.symm.trans he
        simp [Document.targets?, hk.1] at hkey
      · exact hu (.inr ⟨key, ⟨d, hd, hdef⟩, e, he, hkey⟩)
    · cases hi
  rw [display_eq hr hd]
  unfold due?
  show (Registry.answer? (v.workspace.registry.apply (.diagnose uri)) u).map _ = _
  rw [hanswer]
  rfl

/-! ### Maps, one after the other -/

lemma not_concerns_of_targets (h : v.workspace.registry.Targets uri key) (u : Uri) :
    u = uri ∨ ¬ v.workspace.registry.Concerns uri u := by
  refine or_iff_not_imp_left.mpr fun hne hc => ?_
  obtain ⟨_, hdef, -⟩ := hc.resolve_left hne
  exact hdef.not_targets h

lemma isSome_of_targets {r : Registry} (h : r.Targets u key) : (r.get? u).isSome = true := by
  obtain ⟨d, hd, -⟩ := h
  rw [hd]
  rfl

lemma displayOpen_spec (hb : v.workspace.registry.Backed)
    (ht : v.workspace.registry.Targets uri key) :
    v.Quietly (v.displayOpen uri) ∧ (∀ u, (v.displayOpen uri).due? u = v.due? u) ∧
      ∀ u, (v.displayOpen uri).shown? u =
        if uri = u ∧ v.isOpen u = true then v.due? u else v.shown? u := by
  unfold displayOpen
  split
  · next ho =>
    have hg := isSome_of_targets ht
    refine ⟨display_quietly hb.wellFormed hg,
      fun u => due?_display hb hg (not_concerns_of_targets ht u), fun u => ?_⟩
    rw [shown?_display hb.wellFormed hg]
    by_cases hu : uri = u
    · rw [if_pos hu, if_pos ⟨hu, hu ▸ ho⟩, hu]
    · rw [if_neg hu, if_neg fun h => hu h.1]
  · next ho =>
    refine ⟨.refl v, fun _ => rfl, fun u => ?_⟩
    rw [if_neg]
    rintro ⟨rfl, h⟩
    exact ho h

/-- To show the open ones of some maps changes nothing that is due. -/
lemma foldl_displayOpen_spec (hb : v.workspace.registry.Backed)
    (ht : ∀ uri ∈ uris, ∃ key, v.workspace.registry.Targets uri key) :
    let v' := uris.foldl displayOpen v
    v.Quietly v' ∧ (∀ u, v'.due? u = v.due? u) ∧
      ∀ u, v'.shown? u = if u ∈ uris ∧ v.isOpen u = true then v.due? u else v.shown? u := by
  induction uris generalizing v with
  | nil => exact ⟨.refl v, fun _ => rfl, fun u => by simp⟩
  | cons uri uris ih =>
    obtain ⟨key, htarget⟩ := ht uri List.mem_cons_self
    obtain ⟨hq, hdue, hshown⟩ := displayOpen_spec hb htarget
    obtain ⟨hq', hdue', hshown'⟩ := ih (hq.backed hb) fun u hu =>
      (ht u (List.mem_cons_of_mem _ hu)).imp fun key => (hq.targets hb.wellFormed).mpr
    refine ⟨hq.trans hq', fun u => (hdue' u).trans (hdue u), fun u => ?_⟩
    rw [List.foldl_cons, hshown', hq.isOpen, hdue, hshown]
    by_cases ho : v.isOpen u = true
    · by_cases hu : u ∈ uris
      · simp [ho, hu]
      · simp [ho, hu, eq_comm]
    · simp [ho]

lemma gathered_spec (hb : v.workspace.registry.Backed) (hscans : v.workspace.scans = 0)
    (uri : Uri) :
    v.Quietly (v.gathered uri) ∧ (∀ u, (v.gathered uri).due? u = v.due? u) ∧
      ∀ u, (v.gathered uri).shown? u = v.shown? u := by
  obtain ⟨hq, hreg⟩ := gathered_quietly hb.wellFormed hscans uri
  refine ⟨hq, fun u => ?_, fun _ => rfl⟩
  unfold due?
  rw [hreg, answer?_run_of_quiet hb (fun op hop => (Workspace.quiet_of_dependents hop).1)
    fun op hop => (Workspace.quiet_of_dependents hop).2]
  rfl

/-- The maps that depend on the document are shown with what is due. -/
lemma publishDependents_spec (hb : v.workspace.registry.Backed) (hscans : v.workspace.scans = 0)
    (hg : (v.workspace.registry.get? uri).isSome = true) :
    let v' := v.perform (.publishDependents uri)
    v.Quietly v' ∧ (∀ u, v'.due? u = v.due? u) ∧
      ∃ uris : List Uri,
        (∀ u, u ∈ uris ↔
          ∃ key, v.workspace.registry.Defines uri key ∧ v.workspace.registry.Targets u key) ∧
        ∀ u, v'.shown? u = if u ∈ uris ∧ v.isOpen u = true then v.due? u else v.shown? u := by
  have hr := hb.wellFormed
  obtain ⟨d, hg⟩ := Option.isSome_iff_exists.mp hg
  have hprofile : v.hasProfile uri = decide (d.kind = .profile) := by simp [hasProfile, hg]
  simp only [perform, hprofile, decide_eq_true_eq]
  split
  · next hk =>
    have hmem : ∀ u, u ∈ v.workspace.dependentUris uri ↔
        ∃ key, v.workspace.registry.Defines uri key ∧ v.workspace.registry.Targets u key := by
      intro u
      rw [(Workspace.dependentUris_spec hr hg hk).1]
      simp [Defines, hg, Document.defines, hk]
    obtain ⟨hq, hdue, hshown⟩ := gathered_spec hb hscans uri
    have htargets : ∀ u ∈ v.workspace.dependentUris uri,
        ∃ key, (v.gathered uri).workspace.registry.Targets u key := fun u hu =>
      ((hmem u).mp hu).imp fun key h => (hq.targets hr).mpr h.2
    obtain ⟨hq', hdue', hshown'⟩ := foldl_displayOpen_spec (hq.backed hb) htargets
    refine ⟨hq.trans hq', fun u => (hdue' u).trans (hdue u), _, hmem, fun u => ?_⟩
    rw [hshown', hq.isOpen, hdue, hshown]
  · next hk =>
    refine ⟨.refl v, fun _ => rfl, [], fun u => ?_, fun u => by simp⟩
    simp [Defines, hg, Document.defines, hk]

/-- **What is shown when a document has changed.** Then the editor has been shown what is due for
all open documents that this is of concern to, and for the others nothing is different. -/
theorem showing_spec (hb : v.workspace.registry.Backed) (hscans : v.workspace.scans = 0)
    (hg : (v.workspace.registry.get? uri).isSome = true) :
    let v' := v.performAll [.publish uri, .publishDependents uri]
    v.Quietly v' ∧
      (∀ u, v.isOpen u = true → v.workspace.registry.Concerns uri u → v'.shown? u = v'.due? u) ∧
      ∀ u, ¬ v.workspace.registry.Concerns uri u →
        v'.shown? u = v.shown? u ∧ v'.due? u = v.due? u := by
  have hr := hb.wellFormed
  have hq := display_quietly hr hg
  have hshown := shown?_display hr hg
  obtain ⟨hq', hdue', uris, hmem, hshown'⟩ := publishDependents_spec (hq.backed hb)
    (hq.scans.trans hscans) ((hq.isSome hr uri).trans hg)
  have hconcerns : ∀ u, u ∈ uris ↔
      ∃ key, v.workspace.registry.Defines uri key ∧ v.workspace.registry.Targets u key := by
    intro u
    simp only [hmem, hq.defines hr, hq.targets hr]
  refine ⟨hq.trans hq', fun u ho hc => ?_, fun u hc => ?_⟩
  · show ((v.display uri).perform (.publishDependents uri)).shown? u = _
    rw [hshown', hq.isOpen]
    split
    · exact (hdue' u).symm
    · next hn =>
      have hu : u = uri := hc.resolve_right fun h => hn ⟨(hconcerns u).mpr h, ho⟩
      rw [hshown, if_pos hu.symm, hu]
      exact ((hdue' uri).trans (due?_display hb hg (.inl rfl))).symm
  · have hne : ¬ uri = u := fun h => hc (.inl h.symm)
    have hnot : u ∉ uris := fun h => hc (.inr ((hconcerns u).mp h))
    refine ⟨?_, (hdue' u).trans (due?_display hb hg (.inr hc))⟩
    show ((v.display uri).perform (.publishDependents uri)).shown? u = _
    rw [hshown', if_neg fun h => hnot h.1, hshown, if_neg hne]

/-! ### What goes out of date -/

variable {op : Operation}

/-- What a message about the document at `uri` has led to, where `op` is what it did to the
registry: what is of concern was shown, and the rest stays. -/
structure About (v v' : View) (uri : Uri) (op : Operation) : Prop where
  rewrites : op.rewrites uri = true
  registry : ∃ ops, (∀ op ∈ ops, op.isQuiet = true) ∧
    v'.workspace.registry = (v.workspace.registry.apply op).run ops
  opened : ∀ u ∈ v'.opened, u ≠ uri → u ∈ v.opened
  concerned : ∀ u ∈ v'.opened, (v.workspace.registry.apply op).Concerns uri u →
    v'.shown? u = v'.due? u
  others : ∀ u, ¬ (v.workspace.registry.apply op).Concerns uri u → v'.shown? u = v.shown? u ∧
    v'.due? u = ((v.workspace.registry.apply op).answer? u).map (limitDiagnostics v.maxProblems)

/-- What leaves a namespace is the document that the message is about. -/
lemma About.concerns_or_abandons (h : v.About v' uri op) (hb : v.workspace.registry.Backed)
    (ha : v.workspace.registry.Abandons v'.workspace.registry u) :
    ¬ (v.workspace.registry.apply op).Concerns uri u := by
  have hr := hb.wellFormed
  obtain ⟨ops, hq, hreg⟩ := h.registry
  obtain ⟨w, key, hdef, htarget, hleft⟩ := ha
  rw [hreg, defines_run_of_quiet (hr.apply op) hq] at hleft
  have hw : w = uri := by
    by_contra hne
    exact hleft ((namespaces_of_rewrites hr h.rewrites hne).2.mpr hdef)
  subst hw
  rintro (rfl | ⟨other, hdef', htarget'⟩)
  · exact hdef.not_targets htarget
  · have hne : u ≠ w := by
      rintro rfl
      exact hdef.not_targets htarget
    rw [(namespaces_of_rewrites hr h.rewrites hne).1] at htarget'
    obtain ⟨d, hd, hkey⟩ := htarget
    obtain ⟨e, he, hother⟩ := htarget'
    cases hd.symm.trans he
    cases hkey.symm.trans hother
    exact hleft hdef'

/-- Where nothing has left the namespace of a map that the message is not about, and nothing has
come to it, what is due is as before. -/
lemma About.answer_of_others (h : v.About v' uri op) (hb : v.workspace.registry.Backed)
    (hc : ¬ (v.workspace.registry.apply op).Concerns uri u)
    (ha : ¬ v.workspace.registry.Abandons v'.workspace.registry u) :
    (v.workspace.registry.apply op).answer? u = v.workspace.registry.answer? u := by
  have hr := hb.wellFormed
  obtain ⟨ops, hq, hreg⟩ := h.registry
  have hne : u ≠ uri := fun hu => hc (.inl hu)
  refine answer?_of_rewrites hb h.rewrites hne fun d hd key hkey => ?_
  have htarget : v.workspace.registry.Targets u key := ⟨d, hd, hkey⟩
  have hnew : ¬ (v.workspace.registry.apply op).Defines uri key := fun hdef =>
    hc (.inr ⟨key, hdef, (namespaces_of_rewrites hr h.rewrites hne).1.mpr htarget⟩)
  have hold : ¬ v.workspace.registry.Defines uri key := fun hdef => by
    refine ha ⟨uri, key, hdef, htarget, ?_⟩
    rwa [hreg, defines_run_of_quiet (hr.apply op) hq]
  constructor
  · intro p hp
    by_contra hdef
    exact hold ⟨p, hp, by simpa using hdef⟩
  · intro p hp
    by_contra hdef
    exact hnew ⟨p, hp, by simpa using hdef⟩

/-- **What goes out of date by a message.** Of an open document the editor has been shown what is
due, unless a profile has left its namespace and another thing is due now. -/
theorem About.shown?_eq_iff (h : v.About v' uri op) (hb : v.workspace.registry.Backed)
    (hu : u ∈ v'.opened) (hshown : u ∈ v.opened → v.shown? u = v.due? u) :
    v'.shown? u = v'.due? u ↔
      ¬ (v.workspace.registry.Abandons v'.workspace.registry u ∧ v'.due? u ≠ v.due? u) := by
  by_cases hc : (v.workspace.registry.apply op).Concerns uri u
  · have ha : ¬ v.workspace.registry.Abandons v'.workspace.registry u := fun ha =>
      h.concerns_or_abandons hb ha hc
    simp only [h.concerned u hu hc, ha, false_and, not_false_iff]
  · obtain ⟨hshown', hdue'⟩ := h.others u hc
    have hopen := h.opened u hu fun hne => hc (.inl hne)
    rw [hshown', hshown hopen]
    constructor
    · exact fun heq hstale => hstale.2 heq.symm
    · intro hstale
      by_contra hne
      refine hne ?_
      have ha : ¬ v.workspace.registry.Abandons v'.workspace.registry u := fun ha =>
        hstale ⟨ha, fun heq => hne heq.symm⟩
      rw [hdue', h.answer_of_others hb hc ha]
      rfl

end View

end Contracts
