import Mathlib.Data.List.Induction
import Mathlib.Data.List.Perm.Basic
import Contracts.Proofs.Store.Recall
import Contracts.Proofs.Store.WellFormed

/-!
What a registry tells, whatever the order is that it holds its documents in.

Here a registry is only known up to the order of its documents, so all that it is asked has to be
said of the texts it was given. The profile of a namespace is the one with the first uri wherever
it stands, and the diagnostics of a document are those that an analyser without memory finds.
Questions bring documents from one stage to another and forget stages again, in one document for
the sake of another; through all this it stays true that the diagnostics that are known are the
right ones.
-/

namespace Contracts

namespace Document

/-- What a document was given, without what has become of it. -/
def plain (d : Document) : Document := .new 0 d.uri d.kind 0 d.text

@[simp] lemma plain_uri (d : Document) : d.plain.uri = d.uri := rfl

lemma SameText.plain {d e : Document} (h : SameText d e) : e.plain = d.plain := by
  unfold Document.plain
  rw [h.uri, h.kind, h.text]

end Document

namespace Registry

open Document

/-- What a registry was given. -/
def plain (r : Registry) : List Document := r.documents.map (·.plain)

/-- Of the profiles whose text has a namespace, the one with the first uri. -/
def leader? (ds : List Document) (key : String) : Option Document :=
  lowest? (ds.filter (·.defines key))

/-- The diagnostics that an analyser without memory finds for a document among others. -/
def verdictAmong (ds : List Document) (d : Document) : List Diagnostic :=
  d.textDiagnostics ((d.textNamespace?.bind (leader? ds)).bind (·.textContract?))

/-- Documents are known by their ids and uris, all of them are registered, and what is known of
them belongs to their texts. They stand in any order. -/
structure Assorted (r : Registry) : Prop where
  ids : (r.documents.map (·.id)).Nodup
  fresh : ∀ d ∈ r.documents, d.id < r.nextId
  uris : (r.documents.map (·.uri)).Nodup
  derived : ∀ d ∈ r.documents, d.Derived
  alone : r.detached = []

/-- The diagnostics that are known are those that would be found now. -/
def Truthful (r : Registry) : Prop :=
  ∀ d ∈ r.documents, ∀ ds, d.stage.diagnostics? = some ds → ds = verdictAmong r.plain d

/-- The documents of `r'` are those of `r`, of which now other things may be known. Diagnostics that
are known now were known before, or are found among the texts. -/
structure Later (f : Document → Document) (r r' : Registry) : Prop where
  documents : r'.documents = r.documents.map f
  alone : r.detached = [] → r'.detached = []
  nextId : r'.nextId = r.nextId
  sameText : ∀ d ∈ r.documents, SameText d (f d)
  derived : ∀ d ∈ r.documents, d.Derived → (f d).Derived
  known : ∀ d ∈ r.documents, ∀ ds, (f d).stage.diagnostics? = some ds →
    d.stage.diagnostics? = some ds ∨ ds = verdictAmong r.plain d

variable {r r' r'' : Registry} {d e : Document} {ds es : List Document} {uri : Uri} {key : String}
  {kind : Kind} {f g : Document → Document}

/-! ### The first uri -/

lemma lowest?_concat (ds : List Document) (d : Document) :
    lowest? (ds ++ [d]) =
      some ((lowest? ds).elim d fun b => if d.uri.before b.uri then d else b) := by
  unfold lowest?
  rw [List.foldl_append, List.foldl_cons, List.foldl_nil]
  split
  · next h => rw [h]; rfl
  · next b h => rw [h, Option.elim_some]; split <;> rfl

lemma lowest?_map (hf : ∀ d, (f d).uri = d.uri) (ds : List Document) :
    lowest? (ds.map f) = (lowest? ds).map f := by
  induction ds using List.reverseRecOn with
  | nil => rfl
  | append_singleton ds d ih =>
    rw [List.map_append, List.map_singleton, lowest?_concat, lowest?_concat, ih]
    cases lowest? ds with
    | none => rfl
    | some b =>
      simp only [Option.map_some, Option.elim_some, hf]
      split <;> rfl

/-- What is found is one of the documents, and none of them has an earlier uri. -/
lemma lowest?_spec (ds : List Document) :
    (lowest? ds = none ∧ ds = []) ∨
      ∃ d ∈ ds, lowest? ds = some d ∧ ∀ e ∈ ds, e.uri.before d.uri = false := by
  induction ds using List.reverseRecOn with
  | nil => exact .inl ⟨rfl, rfl⟩
  | append_singleton ds d ih =>
    refine .inr ?_
    rw [lowest?_concat]
    rcases ih with ⟨hnone, rfl⟩ | ⟨b, hb, hsome, hfirst⟩
    · exact ⟨d, by simp, by rw [hnone]; rfl, by simp [Uri.before_irrefl]⟩
    · rw [hsome, Option.elim_some]
      split
      · next hlt =>
        have hle := Uri.not_before_of_before hlt
        refine ⟨d, by simp, rfl, fun e he => ?_⟩
        rcases List.mem_append.mp he with he | he
        · exact Uri.not_before_trans hle (hfirst e he)
        · rw [List.mem_singleton.mp he, Uri.before_irrefl]
      · next hge =>
        refine ⟨b, List.mem_append_left _ hb, rfl, fun e he => ?_⟩
        rcases List.mem_append.mp he with he | he
        · exact hfirst e he
        · rw [List.mem_singleton.mp he]
          exact Bool.eq_false_iff.mpr hge

/-- The first uri is the same in every order, if no two uris have the same text. -/
lemma lowest?_of_perm (h : ds.Perm es) (htexts : (es.map (·.uri.text)).Nodup) :
    lowest? ds = lowest? es := by
  rcases lowest?_spec ds with ⟨hd, rfl⟩ | ⟨d, hmem, hd, hfirst⟩
  · rw [hd, List.nil_perm.mp h]
    rfl
  · rcases lowest?_spec es with ⟨-, rfl⟩ | ⟨e, hmem', he, hfirst'⟩
    · cases List.perm_nil.mp h
      cases hmem
    · have hdes := h.mem_iff.mp hmem
      have hle := hfirst e (h.mem_iff.mpr hmem')
      have hge := hfirst' d hdes
      simp only [Uri.before, decide_eq_false_iff_not, not_lt] at hle hge
      have heq : d = e := List.inj_on_of_nodup_map htexts hdes hmem' (le_antisymm hle hge)
      rw [hd, he, heq]

lemma leader?_of_perm (h : ds.Perm es) (htexts : (es.map (·.uri.text)).Nodup) (key : String) :
    leader? ds key = leader? es key :=
  lowest?_of_perm (h.filter _) (htexts.sublist (List.filter_sublist.map _))

lemma verdictAmong_of_perm (h : ds.Perm es) (htexts : (es.map (·.uri.text)).Nodup)
    (d : Document) : verdictAmong ds d = verdictAmong es d := by
  unfold verdictAmong
  rw [funext (leader?_of_perm h htexts)]

/-- Only texts count for who is the profile of a namespace. -/
lemma leader?_plain : leader? r.plain key = (leader? r.documents key).map (·.plain) := by
  unfold leader? plain
  rw [List.filter_map]
  exact lowest?_map plain_uri _

lemma verdictAmong_plain (ds : List Document) (d : Document) :
    verdictAmong ds d.plain = verdictAmong ds d := rfl

/-! ### Documents that are looked up -/

lemma Assorted.get?_eq_some (hr : r.Assorted) :
    r.get? uri = some d ↔ d ∈ r.documents ∧ d.uri = uri :=
  get?_eq_some_of_nodup hr.uris

lemma Assorted.eq_of_id (hr : r.Assorted) (hd : d ∈ r.documents) (he : e ∈ r.documents)
    (h : d.id = e.id) : d = e :=
  List.inj_on_of_nodup_map hr.ids hd he h

lemma Assorted.document?_id (hr : r.Assorted) (hd : d ∈ r.documents) :
    r.document? d.id = some d := by
  unfold document?
  rw [hr.alone, List.append_nil]
  cases hf : r.documents.find? (·.id == d.id) with
  | none => simpa using List.find?_eq_none.mp hf d hd
  | some e =>
    have hid : e.id = d.id := by simpa using List.find?_some hf
    rw [hr.eq_of_id (List.mem_of_find?_eq_some hf) hd hid]

lemma assorted_empty : empty.Assorted where
  ids := List.nodup_nil
  fresh _ h := by cases h
  uris := List.nodup_nil
  derived _ h := by cases h
  alone := rfl

/-- The order of the documents is nothing that is known of them. -/
lemma Assorted.reordered (hr : r.Assorted) (h : ds.Perm r.documents) :
    Assorted { r with documents := ds } where
  ids := (h.map _).nodup_iff.mpr hr.ids
  fresh d hd := hr.fresh d (h.mem_iff.mp hd)
  uris := (h.map _).nodup_iff.mpr hr.uris
  derived d hd := hr.derived d (h.mem_iff.mp hd)
  alone := hr.alone

lemma Truthful.reordered (hr : r.Truthful) (htexts : (r.plain.map (·.uri.text)).Nodup)
    (h : ds.Perm r.documents) : Truthful { r with documents := ds } := by
  intro d hd known hknown
  have hplain : (plain { r with documents := ds }).Perm r.plain := h.map _
  rw [verdictAmong_of_perm hplain htexts]
  exact hr d (h.mem_iff.mp hd) known hknown

lemma get?_isSome_iff : (r.get? uri).isSome = true ↔ ∃ d ∈ r.plain, d.uri = uri := by
  simp [get?, plain]

/-- The documents of a namespace that are found are those whose text has it. -/
lemma documentsIn_eq (hd : ∀ d ∈ r.documents, d.Derived) :
    r.documentsIn kind key =
      ((r.documents.filter fun d => d.kind = kind ∧ d.textNamespace? = some key).map (·.outline.2),
        r.outlineAll kind) := by
  unfold documentsIn
  simp only [Prod.mk.injEq, and_true]
  unfold outlineAll
  rw [List.filter_map]
  have hp : ∀ d ∈ r.documents,
      ((fun d : Document => decide (d.kind = kind ∧ d.knownNamespace? = some key)) ∘
        fun d => if d.kind = kind then d.outline.2 else d) d =
        decide (d.kind = kind ∧ d.textNamespace? = some key) := by
    intro d hmem
    by_cases hk : d.kind = kind
    · simp [hk, sameText_outline.kind, (hd d hmem).outline_known]
    · simp [hk]
  rw [List.filter_congr hp]
  refine List.map_congr_left fun d hmem => ?_
  rw [if_pos (of_decide_eq_true (List.mem_filter.mp hmem).2).1]

/-- The uris of the documents of a namespace. -/
def urisAmong (ds : List Document) (kind : Kind) (key : String) : List Uri :=
  (ds.filter fun d => d.kind = kind ∧ d.textNamespace? = some key).map (·.uri)

lemma documentsIn_uris (hd : ∀ d ∈ r.documents, d.Derived) :
    (r.documentsIn kind key).1.map (·.uri) = urisAmong r.plain kind key := by
  rw [documentsIn_eq hd]
  unfold urisAmong plain
  rw [List.filter_map, List.map_map, List.map_map]
  exact List.map_congr_left fun d _ => sameText_outline.uri

/-- The profile that is found is the one with the first uri of those whose text has the
namespace. -/
lemma findProfile_of_derived (hd : ∀ d ∈ r.documents, d.Derived) :
    r.findProfile key = ((leader? r.documents key).map (·.outline.2), r.outlineAll .profile) := by
  unfold findProfile
  rw [documentsIn_eq hd]
  dsimp only
  rw [lowest?_map fun d => sameText_outline.uri]
  rfl

lemma findProfile_uri (hr : r.Assorted) :
    (r.findProfile key).1.map (·.uri) = (leader? r.plain key).map (·.uri) := by
  rw [findProfile_of_derived hr.derived, leader?_plain, Option.map_map, Option.map_map]
  exact congrArg (Option.map · _) (funext fun d => sameText_outline.uri)

lemma contract?_of_derived (hd : ∀ d ∈ r.documents, d.Derived) :
    r.contract? key = ((leader? r.plain key).bind (·.textContract?), r.outlineAll .profile) := by
  unfold contract?
  rw [findProfile_of_derived hd, leader?_plain]
  rcases lowest?_spec (r.documents.filter (·.defines key)) with ⟨hnone, -⟩ | ⟨p, hp, hsome, -⟩
  · rw [leader?, hnone]
    rfl
  · have hder := hd p (List.mem_filter.mp hp).1
    obtain ⟨t, ht⟩ := Option.ne_none_iff_exists'.mp (outline_tree? (d := p))
    have htree := hder.outline_derived.tree t ht
    rw [sameText_outline.textTree] at htree
    rw [leader?, hsome]
    simp only [Option.map_some, Option.bind_some, ht, htree, textContract?]
    rw [show p.plain.textTree = p.textTree from rfl]
    rcases p.textTree with _ | _ | _ <;> rfl

/-! ### What questions change -/

namespace Later

lemma refl (r : Registry) : Later id r r where
  documents := (List.map_id _).symm
  alone h := h
  nextId := rfl
  sameText d _ := .refl d
  derived _ _ h := h
  known _ _ _ h := .inl h

lemma plain (h : Later f r r') : r'.plain = r.plain := by
  unfold Registry.plain
  rw [h.documents, List.map_map]
  exact List.map_congr_left fun d hd => (h.sameText d hd).plain

lemma mem (h : Later f r r') (hd : d ∈ r.documents) : f d ∈ r'.documents := by
  rw [h.documents]
  exact List.mem_map_of_mem hd

lemma trans (h : Later f r r') (h' : Later g r' r'') : Later (g ∘ f) r r'' where
  documents := by rw [h'.documents, h.documents, List.map_map]
  alone hr := h'.alone (h.alone hr)
  nextId := h'.nextId.trans h.nextId
  sameText d hd := (h.sameText d hd).trans (h'.sameText _ (h.mem hd))
  derived d hd hder := h'.derived _ (h.mem hd) (h.derived d hd hder)
  known d hd ds hds := by
    rcases h'.known _ (h.mem hd) ds hds with hold | hnew
    · exact h.known d hd ds hold
    · rw [h.plain, ← verdictAmong_plain, (h.sameText d hd).plain] at hnew
      exact .inr hnew

lemma map_eq {α : Type} {k : Document → α} (h : Later f r r')
    (hk : ∀ d ∈ r.documents, k (f d) = k d) : r'.documents.map k = r.documents.map k := by
  rw [h.documents, List.map_map]
  exact List.map_congr_left hk

lemma ids (h : Later f r r') : r'.documents.map (·.id) = r.documents.map (·.id) :=
  h.map_eq fun d hd => (h.sameText d hd).id

lemma assorted (h : Later f r r') (hr : r.Assorted) : r'.Assorted where
  ids := h.ids ▸ hr.ids
  fresh d hd := by
    rw [h.documents] at hd
    obtain ⟨e, he, rfl⟩ := List.mem_map.mp hd
    rw [(h.sameText e he).id, h.nextId]
    exact hr.fresh e he
  uris := by
    rw [h.map_eq fun d hd => (h.sameText d hd).uri]
    exact hr.uris
  derived d hd := by
    rw [h.documents] at hd
    obtain ⟨e, he, rfl⟩ := List.mem_map.mp hd
    exact h.derived e he (hr.derived e he)
  alone := h.alone hr.alone

lemma truthful (h : Later f r r') (hr : r.Truthful) : r'.Truthful := by
  intro d hd ds hds
  rw [h.documents] at hd
  obtain ⟨e, he, rfl⟩ := List.mem_map.mp hd
  rw [h.plain, ← verdictAmong_plain, (h.sameText e he).plain, verdictAmong_plain]
  rcases h.known e he ds hds with hold | hnew
  · exact hr e he ds hold
  · exact hnew

end Later

lemma later_outlineAll (r : Registry) (kind : Kind) :
    Later (fun d => if d.kind = kind then d.outline.2 else d) r (r.outlineAll kind) where
  documents := rfl
  alone h := h
  nextId := rfl
  sameText d _ := by split <;> first | exact sameText_outline | exact .refl d
  derived d _ hd := by split <;> first | exact hd.outline_derived | exact hd
  known d _ ds h := by
    split at h
    · exact .inl (outline_diagnostics? (d := d) ▸ h)
    · exact .inl h

lemma later_invalidateDependents (r : Registry) (key : String) :
    Later (·.forgetFor (some key)) r (r.invalidateDependents key) where
  documents := documents_invalidateDependents key
  alone h := h
  nextId := rfl
  sameText _ _ := sameText_forgetFor
  derived _ _ hd := hd.forgetFor_derived
  known d _ ds h := by
    unfold forgetFor at h
    split at h
    · rw [forgetDiagnostics_diagnostics?] at h
      cases h
    · exact .inl h

/-- Changing the document of an id changes no other one. -/
lemma later_modify (hr : r.Assorted) (hd : d ∈ r.documents) (hs : SameText d (f d))
    (hder : d.Derived → (f d).Derived)
    (hknown : ∀ ds, (f d).stage.diagnostics? = some ds →
      d.stage.diagnostics? = some ds ∨ ds = verdictAmong r.plain d) :
    Later (fun e => if e.id = d.id then f e else e) r (r.modify d.id f) where
  documents := rfl
  alone h := by
    show r.detached.map _ = []
    rw [h]
    rfl
  nextId := rfl
  sameText e he := by
    split
    · next hid => cases hr.eq_of_id he hd hid; exact hs
    · exact .refl e
  derived e he hed := by
    split
    · next hid => cases hr.eq_of_id he hd hid; exact hder hed
    · exact hed
  known e he ds h := by
    split at h
    · next hid => cases hr.eq_of_id he hd hid; exact hknown ds h
    · exact .inl h

/-- Making the outline of a document tells what its text has. -/
lemma outline_of_derived (hr : r.Assorted) (hd : d ∈ r.documents) :
    (r.outline d).1 = d.textOutline ∧ ∃ f, Later f r (r.outline d).2 := by
  have hder := hr.derived d hd
  rw [outline_snd]
  refine ⟨hder.outline_fst, _,
    later_modify hr hd sameText_outline (·.outline_derived) fun ds h => ?_⟩
  exact .inl (outline_diagnostics? (d := d) ▸ h)

/-- What is found out of a tree among the texts, and that it only makes outlines or forgets. -/
lemma examine_of_derived (hr : ∀ e ∈ r.documents, e.Derived) {tree : Tree}
    (ht : d.textTree = .ok tree) :
    (r.examine tree tree.namespaceKey).1.1 = verdictAmong r.plain d ∧
      ∃ f, Later f r (r.examine tree tree.namespaceKey).2 := by
  unfold verdictAmong textDiagnostics
  rw [ht, textNamespace?_eq_some.mpr ⟨tree, ht, rfl⟩, Option.bind_some]
  cases tree with
  | profile p => exact ⟨rfl, _, later_invalidateDependents r _⟩
  | map m =>
    unfold examine
    simp only [contract?_of_derived hr]
    cases (leader? r.plain (Tree.map m).namespaceKey).bind (·.textContract?) with
    | none => exact ⟨rfl, _, later_outlineAll r .profile⟩
    | some c => exact ⟨rfl, _, later_outlineAll r .profile⟩

/-- Diagnostics that are not known are found among the texts, and are kept. -/
lemma diagnose_of_assorted (hr : r.Assorted) (hd : d ∈ r.documents)
    (hn : d.stage.diagnostics? = none) :
    (r.diagnose d).1 = .ok (verdictAmong r.plain d) ∧ ∃ f, Later f r (r.diagnose d).2 := by
  have hder := hr.derived d hd
  have hstage := examined_stage hder hn
  have hexamined : Later (fun e => if e.id = d.id then examined d else e) r
      (r.modify d.id fun _ => examined d) := by
    refine later_modify (f := fun _ => examined d) hr hd sameText_examined examined_derived
      fun ds h => ?_
    rw [hstage] at h
    cases h
  -- the document keeps what was found, whatever was learned of others in between
  have hkeep : ∀ {f : Document → Document} {r' : Registry} {unresolved : Bool},
      Later f r r' → ∃ g, Later g r (r'.modify d.id
        (·.keepDiagnostics (verdictAmong r.plain d) unresolved)) := by
    intro f r' unresolved h
    have hs := h.sameText d hd
    refine ⟨_, h.trans (hs.id ▸ later_modify (h.assorted hr) (h.mem hd) sameText_keepDiagnostics
      (·.keepDiagnostics_derived) fun ds hds => ?_)⟩
    rw [h.plain, ← verdictAmong_plain _ (f d), hs.plain, verdictAmong_plain]
    unfold keepDiagnostics at hds
    split at hds
    · exact .inr (Option.some.inj hds).symm
    · cases hds
  cases ht : d.textTree with
  | error e =>
    have hv : verdictAmong r.plain d = [e.diagnostic d.text.toList] := by
      simp [verdictAmong, textDiagnostics, ht]
    rw [diagnose_of_unreadable hder hn ht, ← hv]
    exact ⟨rfl, hkeep hexamined⟩
  | ok tree =>
    rw [diagnose_of_readable hder hn ht]
    obtain ⟨hfound, f, hlater⟩ := examine_of_derived (hexamined.assorted hr).derived ht
    rw [hexamined.plain] at hfound
    dsimp only
    rw [hfound]
    exact ⟨rfl, hkeep (hexamined.trans hlater)⟩

/-- The diagnostics of a document are those that are found among the texts, known or not. -/
theorem diagnose_of_truthful (hr : r.Assorted) (htrue : r.Truthful) (hd : d ∈ r.documents) :
    (r.diagnose d).1 = .ok (verdictAmong r.plain d) ∧ ∃ f, Later f r (r.diagnose d).2 := by
  cases hn : d.stage.diagnostics? with
  | none => exact diagnose_of_assorted hr hd hn
  | some ds =>
    rw [diagnose_of_known hn, htrue d hd ds hn]
    exact ⟨rfl, id, .refl r⟩

/-! ### A document that arrives -/

/-- A document has come to the others, of which nothing more is known than before. -/
structure Arrived (r : Registry) (d : Document) (r' : Registry) : Prop where
  mem : d ∈ r'.documents
  assorted : r'.Assorted
  plain : r'.plain.Perm (d.plain :: r.plain)
  empty : (∀ e ∈ r.documents, e.stage = .empty) → ∀ e ∈ r'.documents, e.stage = .empty

/-- The uri of a document that has arrived is one more that is registered. -/
lemma Arrived.isSome_get? (h : r.Arrived d r') :
    (r'.get? uri).isSome = true ↔ d.uri = uri ∨ (r.get? uri).isSome = true := by
  simp only [get?_isSome_iff, h.plain.mem_iff, List.exists_mem_cons_iff, plain_uri]

lemma createIfAbsent_of_absent {text : String} (hr : r.Assorted) (h : r.get? uri = none) :
    (r.createIfAbsent uri kind text).1 = .new r.nextId uri kind 0 text ∧
      r.Arrived (.new r.nextId uri kind 0 text) (r.createIfAbsent uri kind text).2 := by
  let d := Document.new r.nextId uri kind 0 text
  let f := (Operation.load uri kind text).effect r
  have hsame : ∀ e, SameText e (f e) := fun e => sameText_effect rfl
  obtain ⟨hdetached, hnext⟩ : (r.createIfAbsent uri kind text).2.detached = r.detached ∧
      (r.createIfAbsent uri kind text).2.nextId = r.nextId + 1 := detached_createIfAbsent_of_none h
  have hperm : (r.createIfAbsent uri kind text).2.documents.Perm (d :: r.documents.map f) := by
    rw [documents_createIfAbsent_of_none h]
    exact insertSorted_perm _ _
  have hmem : ∀ e ∈ (r.createIfAbsent uri kind text).2.documents,
      e = d ∨ ∃ e' ∈ r.documents, f e' = e := fun e he => by
    simpa using hperm.mem_iff.mp he
  have hmap : ∀ {α : Type} (k : Document → α), (∀ e, k (f e) = k e) →
      (r.documents.map f).map k = r.documents.map k := fun k hk => by
    rw [List.map_map]
    exact List.map_congr_left fun e _ => hk e
  refine ⟨?_, hperm.mem_iff.mpr List.mem_cons_self, ⟨?_, ?_, ?_, ?_, ?_⟩, ?_, fun hempty e he => ?_⟩
  · simp only [createIfAbsent, h]
    rfl
  · rw [(hperm.map _).nodup_iff, List.map_cons, hmap _ fun e => (hsame e).id, List.nodup_cons]
    refine ⟨fun hid => ?_, hr.ids⟩
    obtain ⟨e, he, hid⟩ := List.mem_map.mp hid
    exact absurd (hid ▸ hr.fresh e he) (lt_irrefl _)
  · intro e he
    rw [hnext]
    rcases hmem e he with rfl | ⟨e', he', rfl⟩
    · exact Nat.lt_succ_self _
    · rw [(hsame e').id]
      exact Nat.lt_succ_of_lt (hr.fresh e' he')
  · rw [(hperm.map _).nodup_iff, List.map_cons, hmap _ fun e => (hsame e).uri, List.nodup_cons]
    refine ⟨fun huri => ?_, hr.uris⟩
    obtain ⟨e, he, huri⟩ := List.mem_map.mp huri
    exact get?_eq_none.mp h e he huri
  · intro e he
    rcases hmem e he with rfl | ⟨e', he', rfl⟩
    · exact derived_of_empty rfl
    · exact effect_derived _ (hr.derived e' he')
  · exact hdetached.trans hr.alone
  · refine (hperm.map _).trans (.of_eq ?_)
    rw [List.map_cons, hmap _ fun e => (hsame e).plain]
    rfl
  · rcases hmem e he with rfl | ⟨e', he', rfl⟩
    · rfl
    · simp only [f, Operation.effect, Operation.bystander, Operation.outlines,
        Operation.invalidated?, forgetFor_none, Bool.false_eq_true, if_false]
      rw [forgetOnArrival_of_empty (hempty e' he')]
      exact hempty e' he'

/-- What is found for a document does not depend on the document being there. -/
lemma verdictAmong_of_perm_cons (h : es.Perm (d :: ds)) (htexts : (ds.map (·.uri.text)).Nodup) :
    verdictAmong es d = verdictAmong ds d := by
  unfold verdictAmong textDiagnostics
  split
  · rfl
  · rfl
  · next m ht =>
    rw [textNamespace?_eq_some.mpr ⟨_, ht, rfl⟩, Option.bind_some, Option.bind_some]
    have hk : d.kind = .map := (readTree_kind ht).symm
    have hfilter : ∀ key, (d :: ds).filter (·.defines key) = ds.filter (·.defines key) :=
      fun key => List.filter_cons_of_neg (by simp [defines, hk])
    have hleader : leader? es (Tree.map m).namespaceKey = leader? ds (Tree.map m).namespaceKey :=
      lowest?_of_perm (hfilter _ ▸ h.filter _) (htexts.sublist (List.filter_sublist.map _))
    rw [hleader]

end Registry

end Contracts
