import Contracts.Proofs.Store.Effect

/-!
What a document answers after any calls.

A document keeps what it has worked out, and each call moves it from one stage to another. Whatever
was called before, and whatever registries it was looked at in, it answers as a document does that
works everything out anew from its text. The invariant is `Current`: what is known belongs to the
text as it is now.
-/

namespace Contracts

/-- What can be asked of one document, and done to it. -/
inductive Document.Call where
  | tree
  | outline
  | namespaceKey
  /-- The diagnostics are worked out in view of the documents of a registry. -/
  | diagnostics (among : Registry)
  | update (edits : List Edit) (version : Int)
  | forgetDiagnostics
  | forgetUnresolved

/-- The registry with `d` as it is now: in place of the document with its id, or else as one that
is not registered. -/
def Registry.hosting (r : Registry) (d : Document) : Registry :=
  if r.document? d.id = none then { r with detached := r.detached ++ [d] }
  else r.modify d.id fun _ => d

namespace Document

/-- The document after a call. An edit that is refused changes nothing. -/
def call (d : Document) : Call → Document
  | .tree => d.tree.2
  | .outline => d.outline.2
  | .namespaceKey => d.namespaceKey.2
  | .diagnostics among => (((among.hosting d).diagnose d).2.document? d.id).getD d
  | .update edits version =>
    match d.update edits version with
    | .ok (_, d) => d
    | .error _ => d
  | .forgetDiagnostics => d.forgetDiagnostics
  | .forgetUnresolved => d.forgetUnresolved

/-- The document after some calls, one after the other. -/
def after (d : Document) (calls : List Call) : Document := calls.foldl call d

/-- The version and the text after a call. -/
def written (now : Int × String) : Call → Int × String
  | .update edits version => if version ≤ now.1 then now else (version, applyEdits now.2 edits)
  | _ => now

/-- The diagnostics of the current text, which for a map are those against a contract. -/
def textDiagnostics (d : Document) (contract? : Option Contract) : List Diagnostic :=
  match d.textTree with
  | .error e => [e.diagnostic d.text.toList]
  | .ok (.profile _) => []
  | .ok (.map m) => contract?.elim [] fun c => (m.check c).diagnostics

/-- All that is known of a document belongs to its current text. -/
structure Current (d : Document) : Prop extends d.Derived where
  diagnostics : ∀ ds, d.stage.diagnostics? = some ds → ∃ c?, ds = d.textDiagnostics c?

end Document

namespace Registry

variable {r r' : Registry} {d : Document} {id : Nat}

lemma document?_modify {f : Document → Document} (hf : ∀ e, e.id = id → (f e).id = id)
    (h : r.document? id = some d) : (r.modify id f).document? id = some (f d) := by
  have hid : d.id = id := by simpa using List.find?_some h
  have hsame : ((fun e : Document => e.id == id) ∘ fun e => if e.id = id then f e else e) =
      fun e => e.id == id := by
    funext e
    by_cases he : e.id = id <;> simp [he, hf]
  show (List.map _ _ ++ List.map _ _).find? _ = _
  rw [← List.map_append, List.find?_map, hsame]
  show Option.map _ (r.document? id) = _
  simp [h, hid]

/-- A document that a change of registered documents leaves alone is known as it was. -/
lemma document?_map {f : Document → Document} (hf : ∀ e, (f e).id = e.id)
    (hdoc : r'.documents = r.documents.map f) (hdet : r'.detached = r.detached) (hd : f d = d)
    (h : r.document? id = some d) : r'.document? id = some d := by
  have hsame : ((fun e : Document => e.id == id) ∘ f) = fun e => e.id == id := by
    funext e
    simp [hf]
  unfold document? at h ⊢
  rw [hdoc, hdet, List.find?_append, List.find?_map, hsame]
  rw [List.find?_append] at h
  cases hfound : r.documents.find? (·.id == id) with
  | none => simpa [hfound] using h
  | some e =>
    have he : e = d := by simpa [hfound] using h
    simp [he, hd]

lemma document?_hosting (r : Registry) (d : Document) : (r.hosting d).document? d.id = some d := by
  unfold hosting
  split
  · next h =>
    unfold document? at h ⊢
    rw [← List.append_assoc, List.find?_append, h]
    simp
  · next h =>
    obtain ⟨e, he⟩ := Option.ne_none_iff_exists'.mp h
    exact document?_modify (fun _ _ => rfl) he

/-- Examining the tree of a document leaves the document itself alone. -/
lemma document?_examine {tree : Tree} {key : String} (hk : tree.kind = d.kind)
    (h : r.document? id = some d) : (r.examine tree key).2.document? id = some d := by
  cases tree with
  | profile p =>
    have hk : d.kind = .profile := hk.symm
    refine document?_map (fun e => Document.sameText_forgetFor.id)
      (documents_invalidateDependents key) rfl ?_ h
    exact Document.forgetFor_of_profile hk
  | map m =>
    have hk : d.kind = .map := hk.symm
    have hc : (r.examine (.map m) key).2 = r.outlineAll .profile := by
      rw [← contract?_snd r key]
      unfold examine
      rcases r.contract? key with ⟨_ | c, r'⟩ <;> rfl
    rw [hc]
    refine document?_map (f := fun e => if e.kind = .profile then e.outline.2 else e)
      (fun e => ?_) rfl rfl (by simp [hk]) h
    split
    · exact Document.sameText_outline.id
    · rfl

lemma examine_fst (r : Registry) (tree : Tree) (key : String) : ∃ c? : Option Contract,
    (r.examine tree key).1.1 =
      match tree with
      | .profile _ => []
      | .map m => c?.elim [] fun c => (m.check c).diagnostics := by
  cases tree with
  | profile p => exact ⟨none, rfl⟩
  | map m =>
    unfold examine
    rcases r.contract? key with ⟨_ | c, r'⟩
    · exact ⟨none, rfl⟩
    · exact ⟨some c, rfl⟩

/-- Diagnostics that are worked out are those of the current text, and are kept. -/
lemma diagnose_of_unknown (hd : d.Derived) (hn : d.stage.diagnostics? = none)
    (h : r.document? d.id = some d) : ∃ c? unresolved,
      (r.diagnose d).1 = .ok (d.textDiagnostics c?) ∧
      (r.diagnose d).2.document? d.id =
        some ((examined d).keepDiagnostics (d.textDiagnostics c?) unresolved) := by
  have hid : (examined d).id = d.id := sameText_examined.id
  have hexamined : (r.modify d.id fun _ => examined d).document? d.id = some (examined d) :=
    document?_modify (fun _ _ => hid) h
  have hkeep : ∀ (ds : List Diagnostic) (unresolved : Bool) (e : Document),
      e.id = d.id → (e.keepDiagnostics ds unresolved).id = d.id :=
    fun ds unresolved e he => Document.sameText_keepDiagnostics.id.trans he
  cases ht : d.textTree with
  | error x =>
    have htext : d.textDiagnostics none = [x.diagnostic d.text.toList] := by
      simp [Document.textDiagnostics, ht]
    rw [diagnose_of_unreadable hd hn ht]
    exact ⟨none, false, by rw [htext], by rw [htext]; exact document?_modify (hkeep _ _) hexamined⟩
  | ok tree =>
    rw [diagnose_of_readable hd hn ht]
    obtain ⟨c?, hc⟩ := examine_fst (r.modify d.id fun _ => examined d) tree tree.namespaceKey
    have htext : d.textDiagnostics c? =
        ((r.modify d.id fun _ => examined d).examine tree tree.namespaceKey).1.1 := by
      rw [hc]
      unfold Document.textDiagnostics
      rw [ht]
      cases tree <;> rfl
    have hkind : tree.kind = (examined d).kind :=
      (readTree_kind ht).trans sameText_examined.kind.symm
    rw [← htext]
    exact ⟨c?, _, rfl, document?_modify (hkeep _ _) (document?_examine hkind hexamined)⟩

end Registry

namespace Document

open Registry

variable {d e : Document}

lemma current_of_empty (h : d.stage = .empty) : d.Current where
  toDerived := derived_of_empty h
  diagnostics ds hds := by simp [h, Stage.diagnostics?] at hds

/-- Where diagnostics are as they were or gone, only trees and outlines count. -/
lemma Current.of_sameText (hd : d.Current) (hs : SameText d e) (he : e.Derived)
    (h : ∀ ds, e.stage.diagnostics? = some ds → d.stage.diagnostics? = some ds) : e.Current where
  toDerived := he
  diagnostics ds hds := by
    obtain ⟨c?, hc⟩ := hd.diagnostics ds (h ds hds)
    refine ⟨c?, hc.trans ?_⟩
    unfold textDiagnostics
    rw [hs.textTree, hs.text]

lemma tree_snd_of_unknown (h : d.stage.tree? = none) :
    d.tree.2 = { d with stage := .read d.textTree, reads := d.reads + 1 } := by
  simp [Document.tree, h, textTree]

lemma tree_derived (hd : d.Derived) : d.tree.2.Derived := by
  cases ht : d.stage.tree? with
  | some t => simpa [Document.tree, ht] using hd
  | none =>
    rw [tree_snd_of_unknown ht]
    exact ⟨fun t h => (Option.some.inj h).symm, fun o h => by simp [Stage.outline?] at h⟩

lemma tree_diagnostics? : d.tree.2.stage.diagnostics? = d.stage.diagnostics? := by
  cases hs : d.stage <;> simp [Document.tree, hs, Stage.tree?, Stage.diagnostics?]

lemma Derived.outline_fst (hd : d.Derived) : d.outline.1 = d.textOutline := by
  cases ho : d.stage.outline? with
  | some o => simpa [Document.outline, ho] using hd.outline o ho
  | none =>
    simp only [Document.outline, ho, textOutline, ← hd.tree_fst, sameText_tree.uri]

/-- The namespace is the one of the header; the outline of a tree is never malformed. -/
lemma Derived.namespaceKey_fst (hd : d.Derived) :
    d.namespaceKey.1 = (d.textTree.map (·.namespaceKey)).mapError .unreadable := by
  have ho := hd.outline_fst
  unfold Document.namespaceKey
  rcases h : d.outline with ⟨o, e⟩
  rw [h] at ho
  rw [show o = d.textOutline from ho, textOutline]
  cases d.textTree with
  | error x => rfl
  | ok t => simp [Except.map, Except.mapError]

/-- Every answer about diagnostics is one for the current text. -/
lemma Current.diagnose_fst (hd : d.Current) (r : Registry) :
    ∃ c?, (r.diagnose d).1 = .ok (d.textDiagnostics c?) := by
  cases hn : d.stage.diagnostics? with
  | some ds =>
    obtain ⟨c?, rfl⟩ := hd.diagnostics ds hn
    exact ⟨c?, by rw [diagnose_of_known hn]⟩
  | none =>
    cases ht : d.textTree with
    | error x =>
      rw [diagnose_of_unreadable hd.toDerived hn ht]
      exact ⟨none, by simp [textDiagnostics, ht]⟩
    | ok tree =>
      rw [diagnose_of_readable hd.toDerived hn ht]
      obtain ⟨c?, hc⟩ := examine_fst (r.modify d.id fun _ => examined d) tree tree.namespaceKey
      refine ⟨c?, congrArg _ (hc.trans ?_)⟩
      unfold textDiagnostics
      rw [ht]
      cases tree <;> rfl

/-- A document whose diagnostics are asked for, and what it is known as afterwards. -/
lemma Current.call_diagnostics (hd : d.Current) (among : Registry) :
    SameText d (d.call (.diagnostics among)) ∧ (d.call (.diagnostics among)).Current := by
  have hhost := document?_hosting among d
  cases hn : d.stage.diagnostics? with
  | some ds =>
    have hcall : d.call (.diagnostics among) = d := by
      simp only [call, diagnose_of_known hn, hhost, Option.getD_some]
    rw [hcall]
    exact ⟨.refl d, hd⟩
  | none =>
    obtain ⟨c?, unresolved, -, hdoc⟩ := diagnose_of_unknown hd.toDerived hn hhost
    have hcall : d.call (.diagnostics among) =
        (examined d).keepDiagnostics (d.textDiagnostics c?) unresolved := by
      simp only [call, hdoc, Option.getD_some]
    have hsame : SameText d (d.call (.diagnostics among)) := by
      rw [hcall]
      exact sameText_examined.trans sameText_keepDiagnostics
    refine ⟨hsame, ?_, fun ds hds => ⟨c?, ?_⟩⟩
    · rw [hcall]
      exact (examined_derived hd.toDerived).keepDiagnostics_derived
    · rw [hcall, keepDiagnostics_of_outlined (examined_stage hd.toDerived hn)] at hds
      have hds : d.textDiagnostics c? = ds := Option.some.inj hds
      rw [← hds]
      unfold textDiagnostics
      rw [hsame.textTree, hsame.text]

lemma call_update (d : Document) (edits : List Edit) (version : Int) :
    d.call (.update edits version) = if version ≤ d.version then d else d.edited edits version := by
  simp only [call, update]
  by_cases hv : version ≤ d.version
  · rw [if_pos hv, if_pos hv]
  · rw [if_neg hv, if_neg hv]
    rfl

/-- No call but an accepted edit changes the text, and every call keeps what is known current. -/
lemma Current.call (hd : d.Current) (c : Call) :
    (d.call c).Current ∧ (d.call c).uri = d.uri ∧ (d.call c).kind = d.kind ∧
      ((d.call c).version, (d.call c).text) = written (d.version, d.text) c := by
  have hquiet : ∀ {e : Document}, SameText d e → e.uri = d.uri ∧ e.kind = d.kind ∧
      (e.version, e.text) = (d.version, d.text) :=
    fun hs => ⟨hs.uri, hs.kind, by rw [hs.version, hs.text]⟩
  cases c with
  | tree =>
    exact ⟨hd.of_sameText sameText_tree (tree_derived hd.toDerived)
      fun ds h => tree_diagnostics? ▸ h, hquiet sameText_tree⟩
  | outline =>
    exact ⟨hd.of_sameText sameText_outline hd.toDerived.outline_derived
      fun ds h => outline_diagnostics? ▸ h, hquiet sameText_outline⟩
  | namespaceKey =>
    simp only [Document.call, Derived.namespaceKey_snd]
    exact ⟨hd.of_sameText sameText_outline hd.toDerived.outline_derived
      fun ds h => outline_diagnostics? ▸ h, hquiet sameText_outline⟩
  | diagnostics among =>
    obtain ⟨hsame, hcur⟩ := hd.call_diagnostics among
    exact ⟨hcur, hquiet hsame⟩
  | update edits version =>
    rw [call_update]
    unfold written
    dsimp only
    by_cases hv : version ≤ d.version
    · rw [if_pos hv, if_pos hv]
      exact ⟨hd, rfl, rfl, rfl⟩
    · rw [if_neg hv, if_neg hv]
      exact ⟨current_of_empty rfl, rfl, rfl, rfl⟩
  | forgetDiagnostics =>
    exact ⟨hd.of_sameText sameText_forgetDiagnostics hd.toDerived.forgetDiagnostics_derived
      fun ds h => by simp [Document.call] at h, hquiet sameText_forgetDiagnostics⟩
  | forgetUnresolved =>
    simp only [Document.call]
    cases hu : d.stage.isUnresolved with
    | false =>
      rw [forgetUnresolved_of_resolved hu]
      exact ⟨hd, rfl, rfl, rfl⟩
    | true =>
      rw [forgetUnresolved_of_unresolved hu]
      exact ⟨hd.of_sameText sameText_forgetDiagnostics hd.toDerived.forgetDiagnostics_derived
        fun ds h => by simp at h, hquiet sameText_forgetDiagnostics⟩

lemma Current.after (hd : d.Current) (calls : List Call) :
    (d.after calls).Current ∧ (d.after calls).uri = d.uri ∧ (d.after calls).kind = d.kind ∧
      ((d.after calls).version, (d.after calls).text) =
        calls.foldl written (d.version, d.text) := by
  induction calls generalizing d with
  | nil => exact ⟨hd, rfl, rfl, rfl⟩
  | cons c calls ih =>
    obtain ⟨hcur, huri, hkind, htext⟩ := hd.call c
    obtain ⟨hcur', huri', hkind', htext'⟩ := ih hcur
    refine ⟨hcur', huri'.trans huri, hkind'.trans hkind, ?_⟩
    rw [List.foldl_cons, ← htext]
    exact htext'

/-- **A document answers as if it kept nothing.** After any calls its text is the first one with
the accepted edits, in order, and its tree, its outline and its namespace are those of that text,
or its syntax error. Diagnostics are those of the text too: of one that cannot be read, exactly the
one of its error. All that is kept belongs to the text as it is now, and an edit that is accepted
leaves nothing. -/
theorem answers_of_text (id : Nat) (uri : Uri) (kind : Kind) (version : Int) (text : String)
    (calls : List Call) :
    let d := (Document.new id uri kind version text).after calls
    let tree := readTree kind d.text
    (d.version, d.text) = calls.foldl written (version, text) ∧
    d.tree.1 = tree ∧
    d.outline.1 = tree.map (·.outline uri.fileName) ∧
    d.namespaceKey.1 = (tree.map (·.namespaceKey)).mapError .unreadable ∧
    (∀ r : Registry, ∃ c?, (r.diagnose d).1 = .ok (d.textDiagnostics c?)) ∧
    (∀ e, tree = .error e → ∀ r : Registry, (r.diagnose d).1 = .ok [e.diagnostic d.text.toList]) ∧
    d.Current ∧
    ∀ edits version, d.version < version → (d.call (.update edits version)).stage = .empty := by
  intro d tree
  have hnew : (Document.new id uri kind version text).Current := current_of_empty rfl
  obtain ⟨hcur, huri, hkind, htext⟩ := hnew.after calls
  have htree : d.textTree = tree := by
    unfold textTree
    rw [hkind]
    rfl
  refine ⟨htext, hcur.tree_fst.trans htree, ?_, ?_, hcur.diagnose_fst, fun e he r => ?_, hcur,
    fun edits version hv => ?_⟩
  · rw [hcur.outline_fst, textOutline, htree, huri]
    rfl
  · rw [hcur.namespaceKey_fst, htree]
  · obtain ⟨c?, hc⟩ := hcur.diagnose_fst r
    rw [hc, textDiagnostics, htree, he]
  · rw [call_update, if_neg (not_le.mpr hv)]
    rfl

end Document

end Contracts
