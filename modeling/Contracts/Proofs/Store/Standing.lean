import Contracts.Proofs.Store.Overtaking
import Contracts.Proofs.Store.Persistence

/-!
What is answered when the diagnostics of a document are asked for: those that are known, or else the
verdict on the texts.

An answer changes only where it has to. The one on a map depends on the contract that is found for
its namespace, and the one on any other document on its own text, so an operation that leaves the
contract of a namespace alone, and does not make its maps forget, leaves their answers as they are.
-/

namespace Contracts

/-- The namespace of the profile that a map is to be checked against. -/
def Document.targets? (d : Document) : Option String :=
  if d.kind = .map then d.textNamespace? else none

/-- Whether an operation gives no document a text and takes none out. -/
def Operation.isQuiet : Operation → Bool
  | .lookThrough _ | .outline _ | .diagnose _ => true
  | _ => false

namespace Registry

open Document

/-- The diagnostics that are answered for a document. -/
def standing (r : Registry) (d : Document) : List Diagnostic :=
  d.stage.diagnostics?.getD (r.verdict d).1

/-- The diagnostics that are answered at a uri, if there is a document. -/
def answer? (r : Registry) (uri : Uri) : Option (List Diagnostic) :=
  (r.get? uri).map r.standing

/-- The contract that maps of a namespace are checked against. -/
def contractOf? (r : Registry) (key : String) : Option Contract :=
  (r.profile? key).bind (·.textContract?)

/-- There is a ledger that is right about what the registry keeps. -/
def Backed (r : Registry) : Prop := ∃ l : Ledger, l.Sound ∧ l.registry = r

variable {r : Registry} {op : Operation} {ops : List Operation} {d p : Document} {uri u : Uri}
  {key : String}

lemma Backed.wellFormed (hb : r.Backed) : r.WellFormed := by
  obtain ⟨l, hl, rfl⟩ := hb
  exact hl.wellFormed

lemma Backed.apply (hb : r.Backed) (op : Operation) : (r.apply op).Backed := by
  obtain ⟨l, hl, rfl⟩ := hb
  exact ⟨l.apply op, hl.apply op, rfl⟩

lemma Backed.run (hb : r.Backed) (ops : List Operation) : (r.run ops).Backed := by
  induction ops generalizing r with
  | nil => exact hb
  | cons op ops ih => exact ih (hb.apply op)

lemma backed_empty : empty.Backed := ⟨.empty, Ledger.sound_empty, rfl⟩

/-- A map that was checked without a profile has no diagnostics, and still there is no profile. -/
lemma Backed.verdict_of_unresolved (hb : r.Backed) (hd : d ∈ r.documents)
    {ds : List Diagnostic} (hds : d.stage.diagnostics? = some ds)
    (hu : d.stage.isUnresolved = true) : ds = (r.verdict d).1 := by
  obtain ⟨l, hl, rfl⟩ := hb
  have hsupported := hl.supported d hd ds hds
  rw [hu] at hsupported
  cases hsupported with
  | unresolved text nowhere found =>
    unfold verdict
    rw [text]
    simp only [profile?_eq_none.mpr nowhere, Option.bind_none]

lemma diagnose_fst (hr : r.WellFormed) (hd : d ∈ r.documents) :
    (r.diagnose d).1 = .ok (r.standing d) := by
  unfold standing
  cases hn : d.stage.diagnostics? with
  | none => exact (diagnose_eq hr ((get?_eq_some hr).mpr ⟨hd, rfl⟩) hn).1
  | some ds => rw [diagnose_of_known hn]; rfl

/-- A verdict depends on other documents by the contract that is found for a map. -/
lemma verdict_congr {r' : Registry} {d' : Document} (hs : SameText d d')
    (h : ∀ key, d.targets? = some key → r'.contractOf? key = r.contractOf? key) :
    (r'.verdict d').1 = (r.verdict d).1 := by
  unfold verdict
  rw [hs.textTree, hs.text]
  split
  · rfl
  · rfl
  · next m ht =>
    have hkey : d.targets? = some (Tree.map m).namespaceKey := by
      have hk : d.kind = .map := (readTree_kind ht).symm
      unfold targets?
      rw [if_pos hk]
      exact textNamespace?_eq_some.mpr ⟨_, ht, rfl⟩
    have hc := h _ hkey
    unfold contractOf? at hc
    rw [hc]

/-- Diagnostics are forgotten with a reason: the namespace is invalidated, or there was no profile
when they were worked out. -/
lemma reason_of_forgotten (hr : r.WellFormed) (hd : d ∈ r.documents) (he : op.edits d = false)
    (hknown : d.stage.diagnostics? ≠ none) (h : (op.effect r d).stage.diagnostics? = none) :
    (∃ key, d.targets? = some key ∧ op.invalidated? r = some key) ∨
      d.stage.isUnresolved = true := by
  by_contra hn
  rw [not_or] at hn
  have hspared : Spared r op d := by
    refine ⟨hknown, fun hk key hkn hi => hn.1 ⟨key, ?_, hi⟩, fun _ _ => by simpa using hn.2⟩
    unfold targets?
    rw [if_pos hk]
    exact (hr.derived_of_mem hd).textNamespace?_of_known hkn
  rw [effect_of_spared hspared he] at h
  exact hknown h

/-- An operation that leaves a contract alone leaves the answers on its maps as they are. -/
theorem standing_effect (hb : r.Backed) (hd : d ∈ r.documents) (he : op.edits d = false)
    (h : ∀ key, d.targets? = some key →
      (r.apply op).contractOf? key = r.contractOf? key ∧ op.invalidated? r ≠ some key) :
    (r.apply op).standing (op.effect r d) = r.standing d := by
  have hr := hb.wellFormed
  have hverdict : ((r.apply op).verdict (op.effect r d)).1 = (r.verdict d).1 :=
    verdict_congr (sameText_effect he) fun key hk => (h key hk).1
  unfold standing
  cases hnew : (op.effect r d).stage.diagnostics? with
  | some ds =>
    have hknown : (op.effect r d).stage.diagnostics? ≠ none := by simp [hnew]
    rcases effect_of_diagnosed hknown with ⟨hx, heffect⟩ | ⟨-, heffect, -⟩
    · have hn := (Operation.examines_iff.mp hx).2
      rw [heffect, keepDiagnostics_of_outlined (examined_stage (hr.derived_of_mem hd) hn)] at hnew
      cases hnew
      rw [hn]
      rfl
    · rw [heffect] at hnew
      rw [hnew]
      rfl
  | none =>
    rw [Option.getD_none, hverdict]
    cases hold : d.stage.diagnostics? with
    | none => rfl
    | some ds =>
      rw [Option.getD_some]
      rcases reason_of_forgotten hr hd he (by simp [hold]) hnew with ⟨key, hk, hi⟩ | hu
      · exact absurd hi (h key hk).2
      · exact (hb.verdict_of_unresolved hd hold hu).symm

/-! ### Operations that give no text -/

lemma documents_of_quiet (hr : r.WellFormed) (hq : op.isQuiet = true) :
    (r.apply op).documents = r.documents.map (op.effect r) ∧ ∀ d, op.edits d = false := by
  cases op with
  | lookThrough kind | outline id | diagnose u =>
    exact ⟨by rw [documents_apply hr, place_of_keeps rfl fun _ => rfl], fun _ => rfl⟩
  | _ => cases hq

lemma get?_of_quiet (hr : r.WellFormed) (hq : op.isQuiet = true) (uri : Uri) :
    (r.apply op).get? uri = (r.get? uri).map (op.effect r) := by
  have huri : ((fun e : Document => e.uri == uri) ∘ op.effect r) = fun e => e.uri == uri := by
    funext e
    simp [(effect_identity op).2.1]
  unfold get?
  rw [(documents_of_quiet hr hq).1, List.find?_map, huri]

lemma contractOf?_of_quiet (hr : r.WellFormed) (hq : op.isQuiet = true) (key : String) :
    (r.apply op).contractOf? key = r.contractOf? key := by
  obtain ⟨hdocs, hedits⟩ := documents_of_quiet hr hq
  unfold contractOf?
  rw [profile?_map (fun e _ => sameText_effect (hedits e)) hdocs]
  cases r.profile? key with
  | none => rfl
  | some p => exact (sameText_effect (hedits p)).textContract?

/-- Where nothing is invalidated that concerns it, an answer stays. -/
lemma answer?_of_quiet (hb : r.Backed) (hq : op.isQuiet = true)
    (h : ∀ d, r.get? uri = some d → ∀ key, d.targets? = some key → op.invalidated? r ≠ some key) :
    (r.apply op).answer? uri = r.answer? uri := by
  have hr := hb.wellFormed
  unfold answer?
  rw [get?_of_quiet hr hq]
  cases hg : r.get? uri with
  | none => rfl
  | some d =>
    have hedits := (documents_of_quiet hr hq).2 d
    exact congrArg some (standing_effect hb ((get?_eq_some hr).mp hg).1 hedits fun key hk =>
      ⟨contractOf?_of_quiet hr hq key, h d hg key hk⟩)

/-! ### Operations on one document -/

/-- An operation on the document at one uri invalidates no namespace but the one it had. -/
lemma invalidated?_ne_of_rewrites (hr : r.WellFormed) (hop : op.rewrites u = true)
    (h : ∀ p, r.get? u = some p → p.defines key = false) : op.invalidated? r ≠ some key := by
  have hold : ∀ q ∈ r.documents, q.uri = u → q.defines key = false :=
    fun q hq hu => h q ((get?_eq_some hr).mpr ⟨hq, hu⟩)
  cases op with
  | create v kind version text =>
    cases (of_decide_eq_true hop : v = u)
    exact invalidated?_ne_of_written? hr rfl hold
  | update v edits version =>
    cases (of_decide_eq_true hop : v = u)
    exact invalidated?_ne_of_written? hr rfl hold
  | remove v =>
    cases (of_decide_eq_true hop : v = u)
    -- a removal invalidates what a new document would
    show (Operation.create u .map 0 "").invalidated? r ≠ some key
    exact invalidated?_ne_of_written? hr rfl hold
  | _ => cases hop

lemma edits_of_ne (hop : op.rewrites u = true) (hne : d.uri ≠ u) : op.edits d = false := by
  by_contra hn
  obtain ⟨edits, version, rfl, -⟩ := Operation.edits_iff.mp (by simpa using hn)
  exact hne (of_decide_eq_true hop)

lemma replaces_of_ne (hop : op.rewrites u = true) (hne : uri ≠ u) : op.replaces uri = false := by
  cases op with
  | create v kind version text =>
    cases (of_decide_eq_true hop : v = u)
    exact decide_eq_false hne.symm
  | remove v =>
    cases (of_decide_eq_true hop : v = u)
    exact decide_eq_false hne.symm
  | _ => rfl

lemma get?_of_rewrites (hr : r.WellFormed) (hop : op.rewrites u = true) (hne : uri ≠ u) :
    (r.apply op).get? uri = (r.get? uri).map (op.effect r) := by
  cases hg : r.get? uri with
  | some d => exact get?_apply hr hg (replaces_of_ne hop hne)
  | none =>
    rcases get?_apply_of_none hr hg (replaces_of_ne hop hne) with hnone | ⟨kind, text, rfl, -⟩
    · exact hnone
    · cases hop

/-- Nothing is registered at a uri after a removal. -/
lemma get?_remove (hr : r.WellFormed) : (r.apply (.remove uri)).get? uri = none := by
  cases hg : (r.apply (.remove uri)).get? uri with
  | none => rfl
  | some d =>
    obtain ⟨hmem, huri⟩ := (get?_eq_some (hr.apply _)).mp hg
    rcases (mem_documents_apply hr).mp hmem with harr | ⟨e, -, hkeeps, rfl⟩
    · cases harr
    · rw [(effect_identity _).2.1] at huri
      simp [Operation.keeps, huri] at hkeeps

lemma isSome_get?_create {kind : Kind} {version : Int} {text : String} (hr : r.WellFormed) :
    ((r.apply (.create uri kind version text)).get? uri).isSome = true := by
  have hmem : Document.new r.nextId uri kind version text ∈
      (r.apply (.create uri kind version text)).documents :=
    (mem_documents_apply hr).mpr (.inl rfl)
  exact Option.isSome_iff_exists.mpr ⟨_, (get?_eq_some (hr.apply _)).mpr ⟨hmem, rfl⟩⟩

/-- A profile that is found at another uri is found still. -/
lemma contractOf?_of_rewrites (hr : r.WellFormed) (hop : op.rewrites u = true)
    (hold : ∀ p, r.get? u = some p → p.defines key = false)
    (hnew : ∀ p, (r.apply op).get? u = some p → p.defines key = false) :
    (r.apply op).contractOf? key = r.contractOf? key := by
  have hr' := hr.apply op
  have hother : ∀ q ∈ (r.apply op).documents, q.defines key = true → q.uri ≠ u := by
    rintro q hq hdef rfl
    rw [hnew q ((get?_eq_some hr').mpr ⟨hq, rfl⟩)] at hdef
    cases hdef
  unfold contractOf?
  cases hp : r.profile? key with
  | some p =>
    obtain ⟨hmem, hdef⟩ := profile?_eq_some hp
    have hne : p.uri ≠ u := by
      rintro rfl
      rw [hold p ((get?_eq_some hr).mpr ⟨hmem, rfl⟩)] at hdef
      cases hdef
    have hedit := edits_of_ne hop hne
    obtain ⟨x, hx, rfl | ⟨hw, -, -⟩⟩ := profile?_apply hr hp
      (Operation.keeps_of_replaces (replaces_of_ne hop hne)) hedit
    · rw [hx]
      exact (sameText_effect hedit).textContract?
    · obtain ⟨hxmem, hxdef⟩ := profile?_eq_some hx
      refine absurd ?_ (hother x hxmem hxdef)
      cases op with
      | create v kind version text =>
        cases hw
        exact of_decide_eq_true hop
      | update v edits version =>
        cases hw
        exact of_decide_eq_true hop
      | load v kind text => cases hop
      | _ => cases hw
  | none =>
    have hnone : (r.apply op).profile? key = none := by
      refine profile?_eq_none.mpr fun q hq => ?_
      by_contra hn
      have hdef : q.defines key = true := by simpa using hn
      have hne := hother q hq hdef
      have hget := (get?_eq_some hr').mpr ⟨hq, rfl⟩
      rw [get?_of_rewrites hr hop hne] at hget
      obtain ⟨e, he, rfl⟩ := Option.map_eq_some_iff.mp hget
      have hmem := ((get?_eq_some hr).mp he)
      have hedit : op.edits e = false := edits_of_ne hop (hmem.2 ▸ hne)
      rw [(sameText_effect hedit).defines, profile?_eq_none.mp hp e hmem.1] at hdef
      cases hdef
    rw [hnone]

/-- What happens at one uri changes the answers on other documents only where a profile comes to
their namespace, or leaves it. -/
theorem answer?_of_rewrites (hb : r.Backed) (hop : op.rewrites u = true) (hne : uri ≠ u)
    (h : ∀ d, r.get? uri = some d → ∀ key, d.targets? = some key →
      (∀ p, r.get? u = some p → p.defines key = false) ∧
        ∀ p, (r.apply op).get? u = some p → p.defines key = false) :
    (r.apply op).answer? uri = r.answer? uri := by
  have hr := hb.wellFormed
  unfold answer?
  rw [get?_of_rewrites hr hop hne]
  cases hg : r.get? uri with
  | none => rfl
  | some d =>
    obtain ⟨hmem, rfl⟩ := (get?_eq_some hr).mp hg
    refine congrArg some (standing_effect hb hmem (edits_of_ne hop hne) fun key hk => ?_)
    obtain ⟨hold, hnew⟩ := h d hg key hk
    exact ⟨contractOf?_of_rewrites hr hop hold hnew, invalidated?_ne_of_rewrites hr hop hold⟩

end Registry

end Contracts
