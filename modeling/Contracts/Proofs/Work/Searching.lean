import Contracts.Proofs.Editor.Search
import Contracts.Proofs.Work.Answers
import Contracts.Proofs.Work.Loading

/-!
A search through all documents, while others are at work.

The search looks at the documents that are registered when it begins, one after the other, and
between two of them others may get on. What is known of a document may be more or less by the time
it is looked at, but its text stays as long as nobody edits it, and the symbols that are found are
those of the text. The search itself only makes outlines.
-/

namespace Contracts

/-- Whether an action is meant to put another text somewhere. -/
def Action.rewrites : Action → Bool
  | .openDocument _ _ _ _ | .changeDocument _ _ _ | .closeDocument _ | .create _ _ _ _
  | .update _ _ _ | .remove _ => true
  | _ => false

namespace Document

/-- A group of hits lists the symbols of the text of a document whose names match, one for each
place of the outline and in their order. A text that cannot be read has none. -/
def Lists (query : String) (d : Document) (group : List Hit) : Prop :=
  match d.textOutline with
  | .ok outline =>
    Enumerates (fun place hit => HitAt d.uri outline place hit ∧ hit.Matches query) group
  | .error _ => group = []

/-- Two states of one document between which neither its text nor its diagnostics were touched. -/
structure SameDiagnostics (d e : Document) : Prop extends SameText d e where
  diagnostics : e.stage.diagnostics? = d.stage.diagnostics?
  checks : e.checks = d.checks

variable {d e f : Document} {query : String}

lemma SameDiagnostics.refl (d : Document) : SameDiagnostics d d := ⟨.refl d, rfl, rfl⟩

lemma SameDiagnostics.trans (h : SameDiagnostics d e) (h' : SameDiagnostics e f) :
    SameDiagnostics d f :=
  ⟨h.toSameText.trans h'.toSameText, h'.diagnostics.trans h.diagnostics, h'.checks.trans h.checks⟩

lemma sameDiagnostics_outline : SameDiagnostics d d.outline.2 :=
  ⟨sameText_outline, outline_diagnostics?, outline_checks⟩

lemma lists_hits : d.Lists query (d.hits query) := by
  unfold Lists hits
  cases d.textOutline with
  | error e => rfl
  | ok outline => exact enumerates_search d.uri query outline

lemma SameText.hits (h : SameText d e) : e.hits query = d.hits query := by
  unfold Document.hits
  rw [h.textOutline, h.uri]

end Document

namespace Registry

open Document

variable {r r' r'' : Registry}

/-- What is registered is the same, and neither texts nor diagnostics were touched. -/
def SameDiagnostics (r r' : Registry) : Prop :=
  List.Forall₂ Document.SameDiagnostics r.documents r'.documents

lemma SameDiagnostics.refl (r : Registry) : SameDiagnostics r r :=
  List.forall₂_same.mpr fun d _ => .refl d

lemma SameDiagnostics.trans (h : SameDiagnostics r r') (h' : SameDiagnostics r' r'') :
    SameDiagnostics r r'' := by
  unfold SameDiagnostics at h h' ⊢
  generalize r.documents = ds, r'.documents = es, r''.documents = fs at h h' ⊢
  induction h generalizing fs with
  | nil => exact h'
  | cons hd hds ih =>
    obtain ⟨f, fs, hf, hfs, rfl⟩ := List.forall₂_cons_left_iff.mp h'
    exact .cons (hd.trans hf) (ih fs hfs)

lemma sameDiagnostics_outline (hr : r.WellFormed) (id : Nat) :
    SameDiagnostics r (r.apply (.outline id)) := by
  unfold SameDiagnostics
  rw [documents_apply hr, place_of_keeps rfl fun _ => rfl, List.forall₂_map_right_iff,
    List.forall₂_same]
  intro d _
  rw [effect_outline]
  split
  · exact Document.sameDiagnostics_outline
  · exact .refl d

end Registry

namespace System

open Registry Document

/-- A question gets on turn by turn, and before each turn others do something. -/
def pursue (s : System) (a : Activity) :
    List (List Action) → System × Turn Activity (Except Error Answer)
  | [] => (s, .more a)
  | others :: between =>
    let s := s.run others
    match a.step? s.workspace with
    | none => s.pursue a between
    | some (w, .more a) => { s with workspace := w }.pursue a between
    | some (w, .done answer) => ({ s with workspace := w }, .done answer)

variable {s : System} {query : String} {between : List (List Action)} {others : List Action}
  {a : Action} {rest : List Document} {found : List Hit} {stage : Option (List Nat × List Hit)}

/-! ### What is found -/

lemma rewrites_of_quiet {op : Operation} {uri : Uri} (ha : a.rewrites = false)
    (h : op ∈ s.operations a) : op.rewrites uri = false := by
  have hquiet : a.replaces uri = false ∧ editAt? uri a = none := by
    cases a <;> first | exact ⟨rfl, rfl⟩ | cases ha
  exact rewrites_of_mem hquiet.1 hquiet.2 h

lemma rewrites_of_mem_trace {op : Operation} {uri : Uri}
    (hothers : ∀ a ∈ others, a.rewrites = false) (h : op ∈ s.trace others) :
    op.rewrites uri = false := by
  induction others generalizing s with
  | nil => cases h
  | cons a others ih =>
    rcases List.mem_append.mp h with h | h
    · exact rewrites_of_quiet (hothers a List.mem_cons_self) h
    · exact ih (fun b hb => hothers b (List.mem_cons_of_mem _ hb)) h

/-- The documents that are still to look at are registered, with the texts that they had. -/
def Awaiting (r : Registry) (rest : List Document) : Prop :=
  ∀ d ∈ rest, ∃ e, r.get? d.uri = some e ∧ SameText d e

lemma Awaiting.run {r : Registry} {ops : List Operation} (h : Awaiting r rest)
    (hr : r.WellFormed) (hops : ∀ op ∈ ops, ∀ uri, op.rewrites uri = false) :
    Awaiting (r.run ops) rest := by
  intro d hd
  obtain ⟨e, he, hde⟩ := h d hd
  obtain ⟨f, hf, hef⟩ := get?_run hr he fun op hop => hops op hop d.uri
  exact ⟨f, hf, hde.trans hef⟩

/-- A search begins with the documents that are registered. -/
lemma search_begins {w : Workspace} (h : w.scans = 0) :
    (Activity.search query none).step? w =
      some (w, .more (.search query (some (w.registry.documents.map (·.id), [])))) :=
  if_pos h

lemma pursue_begin (h : s.workspace.scans = 0) :
    s.pursue (.search query none) ([] :: between) =
      s.pursue (.search query (some (s.registry.documents.map (·.id), []))) between := by
  simp only [pursue, run_nil, search_begins h]
  rfl

/-- A search that has begun looks at the next document, and makes its outline. -/
lemma pursue_next {id : Nat} {ids : List Nat} :
    s.pursue (.search query (some (id :: ids, found))) (others :: between) =
      ((s.run others).withRegistry ((s.run others).registry.apply (.outline id))).pursue
        (.search query
          (some (ids, found ++ ((s.run others).workspace.searchDocument query id).1)))
        between := by
  simp only [pursue, Activity.step?, Activity.searchDocument_eq]
  rfl

/-- A search that has begun finds what the documents have that are still to look at. -/
lemma pursue_search (hr : s.registry.WellFormed) (hrest : Awaiting s.registry rest)
    (hturns : rest.length < between.length)
    (hbetween : ∀ others ∈ between, ∀ a ∈ others, a.rewrites = false) :
    (s.pursue (.search query (some (rest.map (·.id), found))) between).2 =
      .done (.ok (.hits (found ++ rest.flatMap (·.hits query)))) := by
  induction rest generalizing s found between with
  | nil =>
    cases between with
    | nil => cases hturns
    | cons others between => simp [pursue, Activity.step?]
  | cons d rest ih =>
    cases between with
    | nil => cases hturns
    | cons others between =>
      obtain ⟨hothers, hbetween⟩ := List.forall_mem_cons.mp hbetween
      have hreg := registry_run hr others
      have hr' : (s.run others).registry.WellFormed := hreg ▸ hr.run _
      have hrest' : Awaiting (s.run others).registry (d :: rest) := by
        rw [hreg]
        exact hrest.run hr fun op hop uri => rewrites_of_mem_trace hothers hop
      -- the document is looked at as it is by then, and all that is made is its outline
      obtain ⟨e, he, hde⟩ := hrest' d List.mem_cons_self
      have hmem := ((get?_eq_some hr').mp he).1
      have hdoc : (s.run others).registry.document? d.id = some e :=
        (document?_eq_some hr').mpr ⟨List.mem_append_left _ hmem, hde.id⟩
      have hhits : ((s.run others).workspace.searchDocument query d.id).1 = d.hits query :=
        (Activity.searchDocument_of_derived hdoc (hr'.derived_of_mem hmem)).trans hde.hits
      have hlater : Awaiting ((s.run others).registry.run [.outline d.id]) (d :: rest) :=
        hrest'.run hr' (by simp [Operation.rewrites])
      rw [List.map_cons, pursue_next, hhits, List.flatMap_cons, ← List.append_assoc]
      exact ih (hr'.apply (.outline d.id)) (fun f hf => hlater f (List.mem_cons_of_mem _ hf))
        (Nat.lt_of_succ_lt_succ hturns) hbetween

/-! ### What is left behind -/

/-- A turn of a search makes an outline at most. -/
lemma search_step? {w w' : Workspace} {turn : Turn Activity (Except Error Answer)}
    (hr : w.registry.WellFormed) (h : (Activity.search query stage).step? w = some (w', turn)) :
    (∃ r : Registry, w' = { w with registry := r } ∧ r.WellFormed ∧ w.registry.SameDiagnostics r) ∧
      ∀ b, turn = .more b → ∃ stage', b = .search query stage' := by
  rcases stage with _ | ⟨_ | ⟨id, ids⟩, found⟩
  · simp only [Activity.step?] at h
    split at h
    · cases h
      exact ⟨⟨_, rfl, hr, .refl _⟩, fun b hb => by cases hb; exact ⟨_, rfl⟩⟩
    · cases h
  · cases h
    exact ⟨⟨_, rfl, hr, .refl _⟩, fun b hb => by cases hb⟩
  · simp only [Activity.step?] at h
    cases h
    rw [Activity.searchDocument_eq]
    exact ⟨⟨_, rfl, hr.apply _, sameDiagnostics_outline hr id⟩,
      fun b hb => by cases hb; exact ⟨_, rfl⟩⟩

/-- A search that is alone leaves the texts and the diagnostics alone, wherever it is stopped. -/
lemma pursue_alone (hr : s.registry.WellFormed) (halone : ∀ others ∈ between, others = []) :
    ∃ r, (s.pursue (.search query stage) between).1 = s.withRegistry r ∧
      s.registry.SameDiagnostics r := by
  induction between generalizing s stage with
  | nil => exact ⟨_, rfl, .refl _⟩
  | cons others between ih =>
    obtain ⟨rfl, hrest⟩ := List.forall_mem_cons.mp halone
    simp only [pursue, run_nil]
    split
    · exact ih hr hrest
    · next w a hstep =>
      obtain ⟨⟨r, rfl, hr', hs⟩, hmore⟩ := search_step? hr hstep
      obtain ⟨stage', rfl⟩ := hmore a rfl
      obtain ⟨r', hpursue, hs'⟩ :
          ∃ r', ((s.withRegistry r).pursue (.search query stage') between).1 = s.withRegistry r' ∧
            r.SameDiagnostics r' := ih hr' hrest
      exact ⟨r', hpursue, hs.trans hs'⟩
    · next w answer hstep =>
      obtain ⟨⟨r, rfl, -, hs⟩, -⟩ := search_step? hr hstep
      exact ⟨r, rfl, hs⟩

/-- **A search finds exactly the symbols that match.** In whatever state a workspace is, as long as
no scan is under way, a search is answered with a group of hits for each registered document, in
the order in which the registry lists them when the search begins, whichever that is. Others may do
what they like between its turns but edit. When it is alone, it leaves the texts, the versions, the
diagnostics and their counters as they are. -/
theorem search_finds_matching (storage : Storage) (before : List Action) (query : String)
    (between : List (List Action)) (ds : List Document) :
    let s := (ofStorage storage).run before
    s.workspace.scans = 0 →
    s.registry.documents.length < between.length →
    (∀ others ∈ between, ∀ a ∈ others, a.rewrites = false) →
    ds.Perm s.registry.documents →
      let begun := Activity.search query (some (ds.map (·.id), []))
      (Activity.search query none).step? (s.workspace.listing ds) =
          some (s.workspace.listing ds, .more begun) ∧
        (ds = s.registry.documents →
          s.pursue (.search query none) ([] :: between) = s.pursue begun between) ∧
        (∃ groups, (s.pursue begun between).2 = .done (.ok (.hits groups.flatten)) ∧
          List.Forall₂ (Document.Lists query) ds groups) ∧
        ((∀ others ∈ between, others = []) →
          ∃ r, (s.pursue begun between).1 = s.withRegistry r ∧ s.registry.SameDiagnostics r) := by
  intro s hscans hturns hbetween hds begun
  have hr : s.registry.WellFormed := wellFormed_run storage before
  refine ⟨search_begins hscans, fun hplain => ?_, ⟨ds.map (·.hits query), ?_, ?_⟩,
    pursue_alone hr⟩
  · rw [pursue_begin hscans, ← hplain]
  · have hrest : Awaiting s.registry ds := fun d hd =>
      ⟨d, (get?_eq_some hr).mpr ⟨hds.mem_iff.mp hd, rfl⟩, .refl d⟩
    rw [pursue_search hr hrest (hds.length_eq ▸ hturns) hbetween, List.nil_append,
      List.flatMap_def]
  · rw [List.forall₂_map_right_iff, List.forall₂_same]
    exact fun d _ => lists_hits

/-- Two documents of which one is known more than the other, and one that cannot be read. Somebody
asks for diagnostics while they are searched, and they may be listed the other way round. -/
theorem search_finds_matching_weather :
    let s := (ofStorage noFiles).run
      ([openMap, openProfile "w.supr" "GetWeather",
        .openDocument (fileUri "x.supr") "comlink-profile" 1 "name = "] ++ askDiagnostics "w.suma")
    let ds := s.registry.documents
    let between := askDiagnostics "w.supr" :: List.replicate 3 []
    s.workspace.scans = 0 ∧
      ds.map (fun d => (d.hits "getw").map fun hit => (hit.name, hit.container)) =
        [[("GetWeather", some "weather@1.0")], [("GetWeather", some "weather@1.0")], []] ∧
      (∃ groups, (s.pursue (.search "getw" none) ([] :: between)).2 =
          .done (.ok (.hits groups.flatten)) ∧ List.Forall₂ (Document.Lists "getw") ds groups) ∧
      (∃ r, (s.pursue (.search "getw" none) (List.replicate 5 [])).1 = s.withRegistry r ∧
        s.registry.SameDiagnostics r) ∧
      ∃ groups, (s.pursue (.search "getw" (some (ds.reverse.map (·.id), []))) between).2 =
          .done (.ok (.hits groups.flatten)) ∧
        List.Forall₂ (Document.Lists "getw") ds.reverse groups := by
  intro s ds between
  have hscans : s.workspace.scans = 0 := by decide +kernel
  have hhits : ds.map (fun d => (d.hits "getw").map fun hit => (hit.name, hit.container)) =
      [[("GetWeather", some "weather@1.0")], [("GetWeather", some "weather@1.0")], []] := by
    decide +kernel
  have hlength : s.registry.documents.length < 4 := by
    rw [show s.registry.documents.length = 3 by simpa using congrArg List.length hhits]
    decide
  obtain ⟨-, hsame, hfound, -⟩ :=
    search_finds_matching noFiles _ "getw" between ds hscans hlength (by decide) (.refl _)
  obtain ⟨-, hsame', -, halone⟩ := search_finds_matching noFiles _ "getw" (List.replicate 4 [])
    ds hscans hlength (by decide) (.refl _)
  obtain ⟨-, -, hreversed, -⟩ := search_finds_matching noFiles _ "getw" between ds.reverse
    hscans hlength (by decide) (List.reverse_perm _)
  refine ⟨hscans, hhits, ?_, ?_, hreversed⟩
  · rw [hsame rfl]
    exact hfound
  · rw [show List.replicate 5 ([] : List Action) = [] :: List.replicate 4 [] from rfl, hsame' rfl]
    exact halone (by decide)

end System

end Contracts
