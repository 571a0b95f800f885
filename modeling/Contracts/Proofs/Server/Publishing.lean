import Contracts.Proofs.Server.Notices

/-!
Whether an editor sees the diagnostics that are due.

A message about a document gives it another text, or takes it out, and then what is due is shown
for the document and the open maps of its namespace. The namespace that it had before is not looked
at again, so the editor keeps what it was shown of the maps that a profile has left. These are the
only diagnostics that go out of date.
-/

namespace Contracts

/-- What an activity comes to in so many steps, when nothing else happens; `none` if it has to
wait. -/
def Activity.alone? (w : Workspace) : Nat → Activity → Option (Except Error Answer)
  | 0, _ => none
  | n + 1, a =>
    match a.step? w with
    | none => none
    | some (w, .more a) => alone? w n a
    | some (_, .done answer) => some answer

/-- The diagnostics that the workspace answers with when it is asked for them now. -/
def Workspace.diagnostics? (w : Workspace) (uri : Uri) : Option (List Diagnostic) :=
  let activity := Activity.diagnostics uri none
  match activity.alone? w (activity.budget w.registry.documents.length) with
  | some (.ok (.diagnostics ds)) => some ds
  | _ => none

namespace Server

open Registry

/-- A server that an editor has greeted, with any history of its registry and nothing open. -/
def greeted (storage : Storage) (greeting : Greeting) (ops : List Operation) : Server :=
  let desk := greet (.ofStorage storage) greeting
  let workspace := { desk.workspace with registry := empty.run ops }
  ⟨{ desk with workspace := workspace }, [(none, .more .reader)]⟩

def hear (s : Server) (m : News) : Server := s.receive m.number m.call

def hearAll (s : Server) (messages : List News) : Server := messages.foldl hear s

/-- The diagnostics of a document that are to be shown. -/
def due? (s : Server) (uri : Uri) : Option (List Diagnostic) :=
  (s.desk.workspace.diagnostics? uri).map (limitDiagnostics s.desk.settings.maxProblems)

/-- The editor sees what is due for all documents that it has open. -/
def Current (s : Server) : Prop :=
  ∀ uri ∈ s.desk.opened, ∃ ds, s.due? uri = some ds ∧ lastShown? s.desk.sent uri = some ds

/-- A profile leaves the namespace of an open map, for which another thing is due then. -/
def Deserts (s s' : Server) : Prop :=
  ∃ uri ∈ s'.desk.opened,
    s.desk.workspace.registry.Abandons s'.desk.workspace.registry uri ∧ s'.due? uri ≠ s.due? uri

variable {s : Server}

/-! ### A message, from beginning to end -/

/-- A server with nothing left to do. -/
structure Calm (s : Server) : Prop where
  serving : s.desk.Serving
  unread : s.desk.unread = 0
  slots : ∃ dones, s.tasks = (none, .more .reader) :: dones ∧ ∀ slot ∈ dones, isDone slot

lemma Calm.waiting (h : s.Calm) : s.waiting = [] := by
  obtain ⟨dones, htasks, hdones⟩ := h.slots
  unfold Server.waiting
  rw [htasks]
  refine List.filterMap_eq_nil_iff.mpr fun slot hslot => ?_
  rcases List.mem_cons.mp hslot with rfl | hslot
  · rfl
  · obtain ⟨handled, hdone⟩ := hdones slot hslot
    obtain ⟨key, turn⟩ := slot
    cases (hdone : turn = .done handled)
    rfl

/-- **A message is handled to its end**, and it has led to nothing, or to something about one
document. What is open by then is what the message left open at once. -/
theorem Calm.hear (h : s.Calm) (m : News) :
    (s.hear m).Calm ∧ (s.hear m).desk.opened = (s.dispatch m.number m.call).desk.opened ∧
      ((s.hear m).desk.view = s.desk.view ∨
        ∃ uri op, s.desk.view.About (s.hear m).desk.view uri op) := by
  obtain ⟨d, turn, hdispatch, htaken⟩ := takes_news h.serving.phase h.serving.backed.wellFormed m
  obtain ⟨dones, htasks, hdones⟩ := h.slots
  have hd := htaken.serving h.serving
  have hworking : Working d (turn.outcome d.view) d turn :=
    ⟨.refl d, hd.letGo, htaken.ready, rfl⟩
  obtain ⟨d', handled, hsettle, hw, hunread⟩ := settle_line hd.phase hd.scans hd.backed.wellFormed
    hdones hworking (htaken.budget m.number hdones)
  have hhear : s.hear m = ⟨d', line dones m.number (.done handled)⟩ := by
    show settle (s.dispatch m.number m.call) = _
    rw [hdispatch, htasks]
    show settle ⟨d, line dones m.number turn⟩ = _
    unfold settle
    dsimp only
    rw [hsettle]
  have hview : (s.hear m).desk.view = turn.outcome d.view := by
    rw [hhear]
    exact hw.outcome
  have hopened : (s.hear m).desk.opened = (s.dispatch m.number m.call).desk.opened := by
    rw [hhear, hdispatch]
    exact hw.frame.view.opened
  rw [hview]
  refine ⟨?_, hopened, htaken.about h.serving⟩
  rw [hhear]
  refine ⟨hd.frame hw.frame hw.letGo, hunread, _, rfl, fun slot hslot => ?_⟩
  rcases List.mem_append.mp hslot with hslot | hslot
  · exact hdones slot hslot
  · cases List.mem_singleton.mp hslot
    exact ⟨handled, rfl⟩

/-- What is to be shown of a registered document. -/
lemma Calm.due?_eq (h : s.Calm) {uri : Uri}
    (hg : (s.desk.workspace.registry.get? uri).isSome = true) :
    s.due? uri = s.desk.view.due? uri := by
  obtain ⟨d, hd⟩ := Option.isSome_iff_exists.mp hg
  have hr := h.serving.backed.wellFormed
  have hds := diagnose_fst hr ((get?_eq_some hr).mp hd).1
  have hanswer : s.desk.workspace.diagnostics? uri =
      some (s.desk.workspace.registry.standing d) := by
    unfold Workspace.diagnostics?
    simp only [Activity.budget, Activity.alone?, Activity.step?, h.serving.scans, if_true,
      Activity.afterLoad, Load.step?, hd, Option.map_some, hds]
    rfl
  unfold Server.due? View.due?
  rw [hanswer]
  show _ = (Registry.answer? s.desk.workspace.registry uri).map _
  unfold answer?
  rw [hd]
  rfl

lemma Calm.current_iff (h : s.Calm) :
    s.Current ↔ ∀ u ∈ s.desk.opened, s.desk.view.shown? u = s.desk.view.due? u := by
  refine forall₂_congr fun u hu => ?_
  have hg := h.serving.registered u hu
  obtain ⟨d, hd⟩ := Option.isSome_iff_exists.mp hg
  have hdue : (s.due? u).isSome = true := by
    rw [h.due?_eq hg]
    unfold View.due? answer?
    rw [show s.desk.view.workspace.registry.get? u = some d from hd]
    rfl
  obtain ⟨ds, hds⟩ := Option.isSome_iff_exists.mp hdue
  rw [← h.due?_eq hg, hds]
  simp [View.shown?, Desk.view]

/-- By a message what an editor sees goes out of date exactly if a profile deserts an open map. -/
theorem Calm.current_hear_iff (h : s.Calm) (hcurrent : s.Current) (m : News) :
    (s.hear m).Current ↔ ¬ s.Deserts (s.hear m) := by
  obtain ⟨hcalm, -, hcase⟩ := h.hear m
  have hshown := h.current_iff.mp hcurrent
  have hdeserts : s.Deserts (s.hear m) ↔ ∃ u ∈ (s.hear m).desk.opened,
      s.desk.workspace.registry.Abandons (s.hear m).desk.workspace.registry u ∧
        (s.hear m).desk.view.due? u ≠ s.desk.view.due? u := by
    refine exists_congr fun u => and_congr_right fun hu => and_congr_right fun ha => ?_
    obtain ⟨w, key, -, htarget, -⟩ := ha
    rw [hcalm.due?_eq (hcalm.serving.registered u hu), h.due?_eq (View.isSome_of_targets htarget)]
  rw [hcalm.current_iff, hdeserts]
  rcases hcase with hview | ⟨uri, op, habout⟩
  · have hopened : (s.hear m).desk.opened = s.desk.opened := congrArg View.opened hview
    have hreg : (s.hear m).desk.workspace.registry = s.desk.workspace.registry :=
      congrArg (·.workspace.registry) hview
    rw [hopened, hreg, hview]
    refine iff_of_true hshown ?_
    rintro ⟨u, -, ⟨w, key, hdef, -, hleft⟩, -⟩
    exact hleft hdef
  · have hone := fun u (hu : u ∈ (s.hear m).desk.opened) =>
      habout.shown?_eq_iff h.serving.backed hu (hshown u)
    constructor
    · rintro hcur ⟨u, hu, hstale⟩
      exact (hone u hu).mp (hcur u hu) hstale
    · exact fun hnone u hu => (hone u hu).mpr fun hstale => hnone ⟨u, hu, hstale⟩

lemma calm_greeted (storage : Storage) (greeting : Greeting) (ops : List Operation) :
    (greeted storage greeting ops).Calm :=
  ⟨⟨rfl, rfl, Nat.le_refl 0, backed_empty.run ops, List.nodup_nil,
    fun _ hu => absurd hu List.not_mem_nil⟩, rfl, [], rfl,
    fun _ hslot => absurd hslot List.not_mem_nil⟩

lemma hearAll_append (s : Server) (messages : List News) (m : News) :
    s.hearAll (messages ++ [m]) = (s.hearAll messages).hear m := by
  simp [hearAll, List.foldl_append]

lemma Calm.hearAll (h : s.Calm) (messages : List News) : (s.hearAll messages).Calm := by
  induction messages generalizing s with
  | nil => exact h
  | cons m messages ih => exact ih (h.hear m).1

lemma Calm.mem_opened_hearAll (h : s.Calm) (messages : List News) (uri : Uri) :
    uri ∈ (s.hearAll messages).desk.opened ↔
      messages.foldl (News.leavesOpen uri) (decide (uri ∈ s.desk.opened)) = true := by
  induction messages generalizing s with
  | nil => exact decide_eq_true_iff.symm
  | cons m messages ih =>
    obtain ⟨hcalm, hopened, -⟩ := h.hear m
    have hstep : decide (uri ∈ (s.hear m).desk.opened) =
        m.leavesOpen uri (decide (uri ∈ s.desk.opened)) := by
      rw [hopened, Bool.eq_iff_iff, decide_eq_true_iff]
      exact mem_opened_dispatch h.serving.phase h.serving.nodup m uri
    rw [List.foldl_cons, ← hstep]
    exact ih hcalm

/-- **What an editor sees stays current exactly as long as no profile deserts an open map**,
whatever it opens, changes and closes. Each message is handled to its end before the next one, and
what is open by then is what they leave open. -/
theorem view_current_iff (storage : Storage) (greeting : Greeting) (ops : List Operation)
    (messages : List News) :
    let after := (greeted storage greeting ops).hearAll
    (∀ before, before <+: messages → (after before).waiting = [] ∧
        ∀ uri, uri ∈ (after before).desk.opened ↔ News.leaveOpen before uri = true) ∧
      ((∀ before, before <+: messages → (after before).Current) ↔
        ∀ before m, before ++ [m] <+: messages →
          ¬ (after before).Deserts (after (before ++ [m]))) := by
  intro after
  have hcalm : ∀ before, (after before).Calm := (calm_greeted storage greeting ops).hearAll
  refine ⟨fun before _ => ⟨(hcalm before).waiting,
    (calm_greeted storage greeting ops).mem_opened_hearAll before⟩, fun h before m hpre => ?_,
    fun h before hpre => ?_⟩
  · have hnext := h _ hpre
    simp only [after, hearAll_append] at hnext ⊢
    exact ((hcalm before).current_hear_iff
      (h before ((List.prefix_append before [m]).trans hpre)) m).mp hnext
  · induction before using List.reverseRecOn with
    | nil =>
      intro uri hu
      cases hu
    | append_singleton before m ih =>
      have hnot := h before m hpre
      simp only [after, hearAll_append] at hnot ⊢
      exact ((hcalm before).current_hear_iff
        (ih ((List.prefix_append before [m]).trans hpre)) m).mpr hnot

/-! ### A profile that moves to another namespace -/

/-- What an editor tells of a document that it opens. -/
def openingParams (uri language text : String) : Json :=
  .object [("textDocument", .object
    [("languageId", .text language), ("text", .text text), ("uri", .text uri),
      ("version", .int 1)])]

/-- What an editor tells of a document that it gives another text. -/
def changingParams (uri text : String) : Json :=
  .object
    [("contentChanges", .list [.object [("text", .text text)]]),
      ("textDocument", .object [("uri", .text uri), ("version", .int 2)])]

def profileText (version : String) : String :=
  "name = \"weather\"\nversion = \"" ++ version ++ "\"\nusecase Other \x7b\x7d\n"

def mapText : String := "profile = \"weather@1.0\"\nprovider = \"p\"\nmap GetWeather \x7b\x7d\n"

/-- A profile is opened, then a map of a usecase that it lacks, and then the profile moves to
another namespace. -/
def moving : List News :=
  [⟨1, .opened, some (openingParams "file:///w.supr" "comlink-profile" (profileText "1.0.0"))⟩,
    ⟨2, .opened, some (openingParams "file:///w.suma" "comlink-map" mapText)⟩,
    ⟨3, .changed, some (changingParams "file:///w.supr" (profileText "2.0.0"))⟩]

/-- Fields that stand in the order of their names are read in that order. -/
lemma read_record {aside : Bool} {name : String} {fields : List (String × Shape)}
    {found : List (String × Json)} (h : found.Pairwise fun a b => a.1 ≤ b.1) :
    Shape.read aside (.record name fields) (.object found) = (do
      let named ← Shape.collect (fun name j => Shape.readField aside name fields j) found
      Shape.checkMissing fields found
      .ok (.object named)) := by
  have hsorted : Shape.sorted found = found :=
    List.mergeSort_of_pairwise (h.imp decide_eq_true)
  rw [Shape.read, hsorted]

lemma readUri_text {uri : String} (h : (Uri.ofText? uri).isSome = true) :
    Shape.readUri (.text uri) = .ok (.text uri) := by
  unfold Uri.ofText? at h
  unfold Shape.readUri
  cases hu : Uri.ofText uri with
  | ok _ => simp only [hu]
  | error e => rw [hu] at h; cases h

lemma read_openingParams {uri : String} (h : (Uri.ofText? uri).isSome = true)
    (language text : String) :
    readParams (Notice.shape .opened) (some (openingParams uri language text)) =
      .ok (openingParams uri language text) := by
  have hcontent : Shape.read false .content (.object
      [("languageId", .text language), ("text", .text text), ("uri", .text uri),
        ("version", .int 1)]) = _ := read_record (by simp)
  simp only [Shape.collect, Shape.readField, Shape.read, readUri_text h] at hcontent
  unfold readParams openingParams Notice.shape Shape.opening
  dsimp only
  rw [read_record (by simp)]
  simp only [Shape.collect, Shape.readField, hcontent]
  rfl

lemma read_changingParams {uri : String} (h : (Uri.ofText? uri).isSome = true) (text : String) :
    readParams (Notice.shape .changed) (some (changingParams uri text)) =
      .ok (changingParams uri text) := by
  have hversion : Shape.read false .version
      (.object [("uri", .text uri), ("version", .int 2)]) = _ := read_record (by simp)
  have hchange : Shape.read false .change (.object [("text", .text text)]) = _ :=
    read_record (by simp)
  simp only [Shape.collect, Shape.readField, Shape.read, readUri_text h] at hversion
  simp only [Shape.collect, Shape.readField, Shape.read] at hchange
  unfold readParams changingParams Notice.shape Shape.changing
  dsimp only
  rw [read_record (by simp)]
  simp only [Shape.collect, Shape.readField, Shape.changes, Shape.read, List.mapM_cons,
    List.mapM_nil, hversion, hchange]
  rfl

lemma hear_of_read (h : s.Calm) {number : Nat} {notice : Notice} {j params : Json}
    (hread : readParams notice.shape (some j) = .ok params) :
    s.hear ⟨number, notice, some j⟩ = (notice.handle s number params).settle :=
  congrArg settle (dispatch_of_read h.serving.phase hread)

/-- The map is left without a profile, and is shown as if it still had one. -/
theorem not_current_of_moving :
    ¬ ((greeted System.noFiles ⟨[], none, false⟩ []).hearAll moving).Current := by
  have hprofile : (Uri.ofText? "file:///w.supr").isSome = true := by decide +kernel
  have hmap : (Uri.ofText? "file:///w.suma").isSome = true := by decide +kernel
  have hcalm := calm_greeted System.noFiles ⟨[], none, false⟩ []
  unfold moving hearAll
  simp only [List.foldl_cons, List.foldl_nil]
  rw [hear_of_read ((hcalm.hear _).1.hear _).1 (read_changingParams hprofile _),
    hear_of_read (hcalm.hear _).1 (read_openingParams hmap _ _),
    hear_of_read hcalm (read_openingParams hprofile _ _)]
  intro hcurrent
  obtain ⟨ds, hdue, hshown⟩ := hcurrent (System.fileUri "w.suma") (by decide +kernel)
  have hstale : (some ds).map (·.length) = some 0 ∧ (some ds).map (·.length) = some 1 := by
    refine ⟨?_, ?_⟩
    · rw [← hdue]
      decide +kernel
    · rw [← hshown]
      decide +kernel
  exact absurd (hstale.1.symm.trans hstale.2) (by decide)

end Server

end Contracts
