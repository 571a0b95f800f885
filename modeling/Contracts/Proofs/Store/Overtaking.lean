import Mathlib.Data.List.Induction
import Contracts.Proofs.Store.Ledger

/-!
Several profiles of one namespace.

Of several profiles the one with the first uri is found, so a new text may put another profile in
front. This is the one way in which diagnostics that a registry keeps go stale: nobody tells the
maps that were checked against the profile which is found no longer.
-/

namespace Contracts

namespace Registry

open Document

/-- An operation gives another document than `p`, the profile found for `key`, a text with which
it is found instead, while `p` stays registered. -/
structure Overtakes (r : Registry) (op : Operation) (key : String) (p d : Document) : Prop where
  found : (r.findProfile key).1 = some p
  stays : ∃ e ∈ (r.apply op).documents, SameText p e
  written : op.written? = some d.uri
  other : d.uri ≠ p.uri
  finds : ((r.apply op).findProfile key).1 = some d

/-- A profile is overtaken while diagnostics of a map of its namespace are known. -/
def LeavesStale (r : Registry) (op : Operation) : Prop :=
  ∃ key p d m, r.Overtakes op key p d ∧ m ∈ r.documents ∧ m.kind = .map ∧
    m.textNamespace? = some key ∧ m.stage.diagnostics? ≠ none ∧
    ∃ e ∈ (r.apply op).documents, SameText m e

variable {r : Registry} {op : Operation} {p d m : Document} {key : String}

lemma findProfile_fst (hr : r.WellFormed) :
    (r.findProfile key).1 = (r.profile? key).map (·.outline.2) := by
  rw [findProfile_eq hr.inOrder fun e he => hr.derived_of_mem he]

/-- No profile of a namespace stands before the one that is found. -/
lemma not_before_profile? (hr : r.WellFormed) (hp : r.profile? key = some p)
    (hd : d ∈ r.documents) (hn : d.defines key = true) : d.uri.before p.uri = false := by
  obtain ⟨_, front, back, hdocs, hfront⟩ := List.find?_eq_some_iff_append.mp hp
  have ho := hr.inOrder
  rw [InOrder, hdocs, List.pairwise_append] at ho
  rw [hdocs] at hd
  rcases List.mem_append.mp hd with hd | hd
  · simpa [hn] using hfront d hd
  · rcases List.mem_cons.mp hd with hdp | hd
    · rw [hdp]; exact Uri.before_irrefl _
    · exact List.rel_of_pairwise_cons ho.2.1 hd

/-- Where the first match of a list stays one, only what matched nothing before can be found in its
place. -/
lemma find?_map_filter {f : Document → Document} {keep q : Document → Bool} {ds : List Document}
    (h : ds.find? q = some p) (hk : keep p = true) (hp : q (f p) = true) :
    ∃ e ∈ ds, keep e = true ∧ (e = p ∨ q e = false) ∧
      ((ds.filter keep).map f).find? q = some (f e) := by
  induction ds with
  | nil => cases h
  | cons x xs ih =>
    by_cases hx : q x = true
    · rw [List.find?_cons_of_pos hx] at h
      cases h
      refine ⟨p, List.mem_cons_self .., hk, .inl rfl, ?_⟩
      rw [List.filter_cons_of_pos hk, List.map_cons, List.find?_cons_of_pos hp]
    · rw [List.find?_cons_of_neg hx] at h
      obtain ⟨e, he, hke, hq, hf⟩ := ih h
      by_cases hkx : keep x = true
      · rw [List.filter_cons_of_pos hkx, List.map_cons]
        by_cases hfx : q (f x) = true
        · exact ⟨x, List.mem_cons_self .., hkx, .inr (by simpa using hx),
            List.find?_cons_of_pos hfx⟩
        · rw [List.find?_cons_of_neg hfx]
          exact ⟨e, List.mem_cons_of_mem _ he, hke, hq, hf⟩
      · rw [List.filter_cons_of_neg hkx]
        exact ⟨e, List.mem_cons_of_mem _ he, hke, hq, hf⟩

lemma uri_of_arrival? {op : Operation} (h : op.arrival? r = some d) :
    op.written? = some d.uri ∧ ∀ e, op.edits e = false := by
  cases op with
  | create uri kind version text => cases h; exact ⟨rfl, fun _ => rfl⟩
  | load uri kind text =>
    simp only [Operation.arrival?] at h
    split at h
    · cases h; exact ⟨rfl, fun _ => rfl⟩
    · cases h
  | _ => cases h

/-- A profile that stays is found again, unless one of another namespace or none is given a text
that puts it in front. -/
lemma profile?_apply (hr : r.WellFormed) (hp : r.profile? key = some p) (hk : op.keeps p = true)
    (he : op.edits p = false) :
    ∃ x, (r.apply op).profile? key = some x ∧ (x = op.effect r p ∨
      op.written? = some x.uri ∧ x.uri ≠ p.uri ∧
        ∀ q ∈ r.documents, q.uri = x.uri → q.defines key = false) := by
  obtain ⟨hmem, hdef⟩ := profile?_eq_some hp
  obtain ⟨x, hx, hkx, hcase, hfind⟩ := find?_map_filter (f := op.effect r) hp hk
    (by rw [(sameText_effect he).defines, hdef])
  -- what is found among the documents that stay
  have hstay : op.effect r x = op.effect r p ∨ op.edits x = true ∧ x.defines key = false := by
    rcases hcase with rfl | hq
    · exact .inl rfl
    · refine .inr ⟨?_, hq⟩
      by_contra hn
      have := List.find?_some hfind
      rw [(sameText_effect (by simpa using hn)).defines, hq] at this
      cases this
  have hinOrder : InOrder ((r.documents.filter op.keeps).map (op.effect r)) :=
    InOrder.map (hr.inOrder.filter _) fun e => (effect_identity op).2.1
  have hdocs : (r.apply op).profile? key = (place (op.arrival? r)
      ((r.documents.filter op.keeps).map (op.effect r))).find? (·.defines key) := by
    rw [profile?, documents_apply hr]
  have huri : ∀ e, (op.effect r e).uri = e.uri := fun e => (effect_identity op).2.1
  cases harr : op.arrival? r with
  | none =>
    refine ⟨op.effect r x, by rw [hdocs, harr]; exact hfind, ?_⟩
    rcases hstay with heq | ⟨hedit, hno⟩
    · exact .inl heq
    · obtain ⟨changes, version, hop, -⟩ := Operation.edits_iff.mp hedit
      rw [huri]
      refine .inr ⟨by rw [hop]; rfl, fun hu => ?_, fun q hq hu => ?_⟩
      · rw [hr.eq_of_uri hx hmem hu, he] at hedit
        cases hedit
      · rw [hr.eq_of_uri hq hx hu, hno]
  | some d =>
    obtain ⟨hwritten, hedits⟩ := uri_of_arrival? harr
    have heq : op.effect r x = op.effect r p := by
      rcases hstay with heq | ⟨hedit, -⟩
      · exact heq
      · rw [hedits x] at hedit; cases hedit
    rw [heq] at hfind
    rw [hdocs, harr]
    by_cases hd : d.defines key = true
    · have hins := find?_insertSorted hinOrder hd
      rw [hfind] at hins
      by_cases hb : d.uri.before (op.effect r p).uri = true
      · refine ⟨d, by simpa [place, hb] using hins,
          .inr ⟨hwritten, fun hu => ?_, fun q hq hu => ?_⟩⟩
        · exact arrival?_uri harr hmem hk hu.symm
        · by_contra hn
          have := not_before_profile? hr hp hq (by simpa using hn)
          rw [hu, ← huri p, hb] at this
          cases this
      · exact ⟨op.effect r p, by simpa [place, hb] using hins, .inl rfl⟩
    · have hd : d.defines key = false := by simpa using hd
      exact ⟨op.effect r p, (find?_insertSorted_of_neg hd).trans hfind, .inl rfl⟩

/-- A document that stays as it is apart from what is known of it was neither new nor edited. -/
lemma effect_of_sameText (hr : r.WellFormed) (hd : d ∈ r.documents)
    (hm : m ∈ (r.apply op).documents) (hs : SameText d m) :
    op.keeps d = true ∧ op.edits d = false ∧ m = op.effect r d := by
  rcases (mem_documents_apply hr).mp hm with harr | ⟨e, he, hkeeps, rfl⟩
  · have hlt := hr.id_lt hd
    rw [← hs.id, (arrival?_eq_some harr).1] at hlt
    exact absurd hlt (Nat.lt_irrefl _)
  · have hid := (effect_identity (r := r) (d := e) op).1
    have heq := hr.eq_of_id he hd (hid.symm.trans hs.id)
    rw [heq] at hs hkeeps ⊢
    refine ⟨hkeeps, ?_, rfl⟩
    by_contra hn
    obtain ⟨changes, version, rfl, hv⟩ := Operation.edits_iff.mp (by simpa using hn)
    have hversion := hs.version
    simp only [Operation.effect, hv, and_self, if_true] at hversion
    exact absurd hversion (ne_of_gt hv)

/-- Diagnostics that are spared stay. -/
lemma effect_of_spared (hsp : Spared r op d) (he : op.edits d = false) : op.effect r d = d := by
  have hby : op.bystander r d = d := by
    unfold Operation.bystander
    rw [outline_of_known (Stage.outline?_of_diagnostics? hsp.known), ite_self]
    have hfor : d.forgetFor (op.invalidated? r) = d := by
      unfold forgetFor
      rw [if_neg]
      rintro ⟨hk, hne, heq⟩
      obtain ⟨key, hkey⟩ := Option.ne_none_iff_exists'.mp hne
      exact hsp.namespaces hk key (heq.trans hkey) hkey
    rw [hfor]
    unfold forgetOnArrival
    split
    · next h => exact forgetUnresolved_of_resolved (hsp.arrivals h.2 h.1)
    · rfl
  cases op with
  | update uri edits version =>
    have hn : ¬ (d.uri = uri ∧ d.version < version) := by simpa [Operation.edits] using he
    simp only [Operation.effect, if_neg hn, hby]
  | diagnose uri =>
    have hn : ¬ (d.uri = uri ∧ d.stage.diagnostics? = none) := fun h => hsp.known h.2
    simp only [Operation.effect, if_neg hn, hby]
  | _ => exact hby

/-- An operation on the text of a document invalidates no namespace but the one it had. -/
lemma invalidated?_ne_of_written? (hr : r.WellFormed) {uri : Uri} (hw : op.written? = some uri)
    (h : ∀ q ∈ r.documents, q.uri = uri → q.defines key = false) :
    op.invalidated? r ≠ some key := by
  have hdef : (r.get? uri).bind (·.definedNamespace?) ≠ some key := by
    intro hi
    obtain ⟨q, hq, hns⟩ := Option.bind_eq_some_iff.mp hi
    obtain ⟨hmem, hu⟩ := (get?_eq_some hr).mp hq
    have hno := h q hmem hu
    unfold definedNamespace? at hns
    split at hns
    · next hk =>
      have htext := (hr.derived_of_mem hmem).textNamespace?_of_known hns
      rw [defines_iff.mpr ⟨hk, htext⟩] at hno
      cases hno
    · cases hns
  cases op with
  | create u kind version text => cases hw; exact hdef
  | load u kind text => exact fun h => nomatch h
  | update u changes version =>
    cases hw
    intro hi
    obtain ⟨q, hq, hns⟩ := Option.bind_eq_some_iff.mp hi
    split at hns
    · exact hdef (Option.bind_eq_some_iff.mpr ⟨q, hq, hns⟩)
    · cases hns
  | _ => cases hw

/-- What is overtaken stays registered behind another profile, and its namespace is not
invalidated. -/
lemma Overtakes.displaced (hr : r.WellFormed) (h : r.Overtakes op key p d) :
    ∃ p₀ x, r.profile? key = some p₀ ∧ op.effect r p₀ ∈ (r.apply op).documents ∧
      (r.apply op).profile? key = some x ∧ x.uri ≠ p₀.uri ∧ op.invalidated? r ≠ some key := by
  have hfound := h.found
  have hfinds := h.finds
  have hother := h.other
  rw [findProfile_fst hr] at hfound
  rw [findProfile_fst (hr.apply op)] at hfinds
  obtain ⟨p₀, hp, rfl⟩ := Option.map_eq_some_iff.mp hfound
  obtain ⟨x, hx, rfl⟩ := Option.map_eq_some_iff.mp hfinds
  rw [sameText_outline.uri, sameText_outline.uri] at hother
  obtain ⟨q, hq, hsame⟩ := h.stays
  obtain ⟨hkeeps, hedit, rfl⟩ :=
    effect_of_sameText hr (profile?_eq_some hp).1 hq (sameText_outline.trans hsame)
  refine ⟨p₀, x, hp, hq, hx, hother, ?_⟩
  obtain ⟨y, hy, hcase⟩ := profile?_apply hr hp hkeeps hedit
  rw [hx] at hy
  cases hy
  rcases hcase with rfl | ⟨hwritten, -, hno⟩
  · exact absurd (effect_identity op).2.1 hother
  · exact invalidated?_ne_of_written? hr hwritten hno

end Registry

namespace Ledger

open Document Registry

variable {l : Ledger} {op : Operation} {d : Document} {key : String} {ds : List Diagnostic}

/-- Every map that is known to have diagnostics was checked against the profile that is found
now, and as both texts are now. -/
def Fresh (l : Ledger) : Prop :=
  ∀ m ∈ l.registry.documents, m.kind = .map → ∀ key ds, m.textNamespace? = some key →
    m.stage.diagnostics? = some ds →
      l.source m.id = (l.registry.findProfile key).1.map (·.id) ∧
        ds = m.checkedAgainst (l.registry.findProfile key).1

lemma map_id_findProfile {r : Registry} (hr : r.WellFormed) :
    (r.findProfile key).1.map (·.id) = (r.profile? key).map (·.id) := by
  rw [findProfile_fst hr, Option.map_map]
  exact congrArg (fun f => Option.map f (r.profile? key)) (funext fun _ => sameText_outline.id)

/-- If the profile of the ledger is the one that is found, so is what was found out with it. -/
lemma Sound.eq_checkedAgainst (hl : l.Sound) (hd : d ∈ l.registry.documents)
    (hk : d.kind = .map) (hns : d.textNamespace? = some key) (hds : d.stage.diagnostics? = some ds)
    (hsource : l.source d.id = (l.registry.profile? key).map (·.id)) :
    ds = d.checkedAgainst (l.registry.findProfile key).1 := by
  have hr := hl.wellFormed
  rw [findProfile_fst hr]
  rcases (hl.supported d hd ds hds).of_map hk hns with ⟨p, hp, hreg⟩ | ⟨hnone, -, hempty, -⟩
  · obtain ⟨-, -, hfound, hcheck, -⟩ := hreg
    rw [hfound] at hsource
    obtain ⟨q, hq, hid⟩ := Option.map_eq_some_iff.mp hsource.symm
    have heq := hr.eq_of_id hp (profile?_eq_some hq).1 hid.symm
    rw [hcheck, hq, heq]
    simp [checkedAgainst, sameText_outline.textContract?]
  · rw [hempty, profile?_eq_none.mpr hnone]
    rfl

/-- Only by an operation that leaves diagnostics stale a map comes to depend on another profile
than the one it was checked against. -/
lemma Fresh.source_apply (hl : l.Sound) (hf : l.Fresh) (hn : ¬ l.registry.LeavesStale op)
    (hd : d ∈ l.registry.documents) (hk : d.kind = .map) (hns : d.textNamespace? = some key)
    (hsp : Spared l.registry op d) (hmem : d ∈ (l.registry.apply op).documents) :
    l.source d.id = ((l.registry.apply op).profile? key).map (·.id) := by
  have hr := hl.wellFormed
  obtain ⟨ds, hds⟩ := Option.ne_none_iff_exists'.mp hsp.known
  obtain ⟨hsource, -⟩ := hf d hd hk key ds hns hds
  rw [map_id_findProfile hr] at hsource
  have hkn : d.knownNamespace? = some key :=
    ((hr.derived_of_mem hd).knownNamespace? (Stage.outline?_of_diagnostics? hsp.known)).trans hns
  rcases (hl.supported d hd ds hds).of_map hk hns with ⟨p, hp, hreg⟩ | ⟨hnone, hfound, -, hu⟩
  · obtain ⟨hkind, hknown, hfound, -, -⟩ := hreg
    obtain ⟨q, hq, hid⟩ := Option.map_eq_some_iff.mp (hsource.symm.trans hfound)
    have heq := hr.eq_of_id (profile?_eq_some hq).1 hp hid
    rw [heq] at hq
    -- the profile stays as it is, for otherwise the diagnostics would have been forgotten
    obtain ⟨hkeeps, hself⟩ := effect_of_profile hr hp hkind hknown (hsp.namespaces hk key hkn)
    have hedit : op.edits p = false := by
      by_contra he
      have := effect_of_edits (r := l.registry) (by simpa using he)
      rw [hself] at this
      simp [knownNamespace?_eq_none, this, Stage.outline?] at hknown
    obtain ⟨x, hx, hcase⟩ := profile?_apply hr hq hkeeps hedit
    rw [hself] at hcase
    rw [hx, hfound]
    rcases hcase with rfl | ⟨hwritten, hne, -⟩
    · rfl
    · refine absurd ⟨key, p.outline.2, x.outline.2, d, ?_, hd, hk, hns, hsp.known, d, hmem,
        .refl d⟩ hn
      have hpmem := (mem_documents_apply hr).mpr (.inr ⟨p, hp, hkeeps, hself⟩)
      constructor
      · rw [findProfile_fst hr, hq]; rfl
      · exact ⟨p, hpmem, sameText_outline.symm⟩
      · rw [sameText_outline.uri]; exact hwritten
      · rwa [sameText_outline.uri, sameText_outline.uri]
      · rw [findProfile_fst (hr.apply op), hx]; rfl
  · have hquiet : op.bringsProfile l.registry = false := by
      by_contra hb
      rw [hsp.arrivals hk (by simpa using hb)] at hu
      cases hu
    rw [profile?_eq_none.mpr (defines_of_quiet hr hquiet hnone), hfound]
    rfl

/-- Working diagnostics out leaves every profile where it was found. -/
lemma profile?_diagnose {r : Registry} (hr : r.WellFormed) {uri : Uri} :
    (r.apply (.diagnose uri)).profile? key =
      (r.profile? key).map ((Operation.diagnose uri).effect r) := by
  refine profile?_map (fun e _ => sameText_effect rfl) ?_
  rw [documents_apply hr, place_of_keeps rfl fun _ => rfl]

/-- An operation that leaves no diagnostics stale keeps all of them fresh. -/
theorem Fresh.apply (hl : l.Sound) (hf : l.Fresh) (hn : ¬ l.registry.LeavesStale op) :
    (l.apply op).Fresh := by
  intro m hm hk key ds hns hds
  have hr := hl.wellFormed
  have hl' := hl.apply op
  have hsource : (l.apply op).source m.id = ((l.apply op).registry.profile? key).map (·.id) := by
    rcases (mem_documents_apply hr).mp hm with harr | ⟨e, he, -, rfl⟩
    · simp [(arrival?_eq_some harr).2.1, Stage.diagnostics?] at hds
    have hknown : (op.effect l.registry e).stage.diagnostics? ≠ none := by simp [hds]
    rcases effect_of_diagnosed hknown with ⟨hx, heffect⟩ | ⟨hx, heffect, hsp⟩
    · obtain ⟨rfl, -⟩ := Operation.examines_iff.mp hx
      rw [(sameText_effect rfl).textNamespace?] at hns
      rw [(effect_identity _).1, source_apply_of_examines hr he hx, sourceOf_eq hr hns]
      have hid : ((·.id) ∘ (Operation.diagnose e.uri).effect l.registry) = Document.id :=
        funext fun _ => (effect_identity _).1
      rw [registry_apply, profile?_diagnose hr, Option.map_map, hid]
    · rw [heffect] at hm hk hns ⊢
      rw [Ledger.source_apply hr he hx]
      exact hf.source_apply hl hn he hk hns hsp hm
  refine ⟨?_, hl'.eq_checkedAgainst hm hk hns hds hsource⟩
  rw [hsource, map_id_findProfile hl'.wellFormed]

/-- After an operation that leaves diagnostics stale, those of some map are. -/
theorem Fresh.not_apply (hl : l.Sound) (hf : l.Fresh) (h : l.registry.LeavesStale op) :
    ¬ (l.apply op).Fresh := by
  intro hf'
  obtain ⟨key, p, d, m, hover, hm, hk, hns, hcached, e, he, hsame⟩ := h
  have hr := hl.wellFormed
  obtain ⟨p₀, x, hp, hp', hx, hother, hinv⟩ := hover.displaced hr
  obtain ⟨ds, hds⟩ := Option.ne_none_iff_exists'.mp hcached
  obtain ⟨hsource, -⟩ := hf m hm hk key ds hns hds
  rw [map_id_findProfile hr, hp] at hsource
  -- the map keeps its diagnostics, since nothing tells it to forget them
  have hsp : Spared l.registry op m := by
    refine ⟨hcached, fun _ key' hkn => ?_, fun _ _ => ?_⟩
    · have := (hr.derived_of_mem hm).textNamespace?_of_known hkn
      rw [hns] at this
      cases this
      exact hinv
    · rcases (hl.supported m hm ds hds).of_map hk hns with ⟨_, _, hreg⟩ | ⟨-, hnone, -⟩
      · exact hreg.2.2.2.2
      · rw [hsource] at hnone; cases hnone
  obtain ⟨-, hedit, rfl⟩ := effect_of_sameText hr hm he hsame
  have hself := effect_of_spared hsp hedit
  rw [hself] at he
  have hexam : op.examines m = false := by
    by_contra hn
    exact hcached (Operation.examines_iff.mp (by simpa using hn)).2
  obtain ⟨hsource', -⟩ := hf' m he hk key ds hns hds
  rw [Ledger.source_apply hr hm hexam, hsource, registry_apply, map_id_findProfile (hr.apply op),
    hx] at hsource'
  have hid : x.id = p₀.id := (Option.some.inj hsource').symm
  have heq := (hr.apply op).eq_of_id (profile?_eq_some hx).1 hp'
    (hid.trans (effect_identity (r := l.registry) op).1.symm)
  rw [heq, (effect_identity op).2.1] at hother
  exact hother rfl

lemma fresh_empty : empty.Fresh := fun _ h => by cases h

/-- **Diagnostics stay fresh exactly as long as no profile is overtaken** that a map was checked
against, however many profiles share a namespace. -/
theorem fresh_iff (ops : List Operation) :
    (∀ before, before <+: ops → (empty.run before).Fresh) ↔
      ∀ before op, before ++ [op] <+: ops → ¬ (empty.run before).registry.LeavesStale op := by
  constructor
  · intro h before op hpre hstale
    have hfresh := h before ((List.prefix_append before [op]).trans hpre)
    have hfresh' := h _ hpre
    rw [run_append] at hfresh'
    exact hfresh.not_apply (sound_empty.run before) hstale hfresh'
  · intro h before hpre
    induction before using List.reverseRecOn with
    | nil => exact fresh_empty
    | append_singleton before op ih =>
      rw [run_append]
      exact (ih ((List.prefix_append before [op]).trans hpre)).apply (sound_empty.run before)
        (h before op hpre)

end Ledger

end Contracts
