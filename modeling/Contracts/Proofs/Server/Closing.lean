import Contracts.Proofs.Server.Interleaving

/-!
Whether a closed document stays clear.

When a document is closed its diagnostics disappear, and it is taken out of the registry. But a
task that has it in hand goes on: it looks the document up once the scans are over, takes it out of
storage if it is gone, and shows its diagnostics without asking whether it is open. This is the only
way in which a closed document comes back.
-/

namespace Contracts

namespace News

open Server

/-- Whether a message opens a document that is not open. -/
def opens (uri : Uri) (m : News) : Bool := m.leavesOpen uri false

/-- Whether a message closes a document that is open. -/
def closes (uri : Uri) (m : News) : Bool := !m.leavesOpen uri true

/-- Whether a message is to give a document another text. -/
def changes (uri : Uri) (m : News) : Bool :=
  match m.notice, readParams m.notice.shape m.params with
  | .changed, .ok params => changingUri? params == some uri
  | _, _ => false

lemma closing_of_closes {uri : Uri} {m : News} (h : m.closes uri = true) :
    ∃ number j params, m = ⟨number, .closed, j⟩ ∧ readParams (Notice.shape .closed) j = .ok params ∧
      closingUri? params = some uri := by
  obtain ⟨number, notice, j⟩ := m
  unfold closes leavesOpen at h
  dsimp only at h
  split at h
  · cases h
  · next params hread => exact ⟨number, j, params, rfl, hread, by simpa using h⟩
  · cases h

end News

/-- Whether an event is neither a message nor the step of a task. -/
def Event.isAside : Event → Bool
  | .news _ | .proceed _ => false
  | _ => true

namespace Server

variable {s : Server} {uri : Uri} {slot : Nat}

/-- A document stays closed: nothing is shown of it, and no task that was there before registers it
again. What a scan finds in the storage may be registered. -/
structure StaysClosed (s : Server) (uri : Uri) (events : List Event) : Prop where
  clear : ∀ before, before <+: events → lastShown? (s.run before).desk.sent uri = some []
  absent : ∀ before slot, before ++ [.proceed slot] <+: events → slot < s.tasks.length →
    (s.run before).desk.workspace.registry.get? uri = none →
    (s.run (before ++ [.proceed slot])).desk.workspace.registry.get? uri = none

/-- A document comes back with the next step of the task in a slot: the task shows that there is
something wrong with it, or is one of the first `begun` and registers it. -/
def Revives (s : Server) (begun : Nat) (uri : Uri) (slot : Nat) : Prop :=
  ∃ ds, s.shows? slot = some (uri, ds) ∧
    (ds ≠ [] ∨ slot < begun ∧ s.desk.workspace.registry.get? uri = none)

/-! ### The events after a close -/

lemma inHand_append {s' : Server} {key : Option Nat} {turn : Turn Task Handled}
    (htasks : s'.tasks = s.tasks ++ [(key, turn)]) (h : s'.InHand uri slot) :
    s.InHand uri slot ∨ turn.HasInHand uri := by
  obtain ⟨key', turn', hget, hturn⟩ := h
  rw [htasks] at hget
  rcases lt_or_ge slot s.tasks.length with hlt | hge
  · exact .inl ⟨key', turn', (List.getElem?_append_left hlt).symm.trans hget, hturn⟩
  · have hlast := (List.getElem?_append_right hge).symm.trans hget
    cases List.mem_singleton.mp (List.mem_of_getElem? hlast)
    exact .inr hturn

/-- What is neither a message nor the step of a task is about no document that is shown. -/
lemma happen_aside (s : Server) {e : Event} (he : e.isAside = true) :
    (s.happen e).desk.opened = s.desk.opened ∧ (s.happen e).desk.sent = s.desk.sent ∧
      ∀ uri slot, (s.happen e).InHand uri slot → s.InHand uri slot := by
  cases e with
  | news m => cases he
  | startScan =>
    show s.startScan.desk.opened = _ ∧ s.startScan.desk.sent = _ ∧
      ∀ uri slot, s.startScan.InHand uri slot → _
    unfold startScan
    split
    · exact ⟨rfl, rfl, fun uri slot hi => (inHand_append rfl hi).resolve_right id⟩
    · exact ⟨rfl, rfl, fun _ _ hi => hi⟩
  | proceed slot => cases he
  | proceedLoad i choice =>
    show (s.proceedLoad i choice).desk.opened = _ ∧ (s.proceedLoad i choice).desk.sent = _ ∧
      ∀ uri slot, (s.proceedLoad i choice).InHand uri slot → _
    rcases s.proceedLoad_cases i choice with heq | ⟨key, scan, sink, w, scan', -, -, heq⟩
    · rw [heq]
      exact ⟨rfl, rfl, fun _ _ hi => hi⟩
    · rw [heq]
      refine ⟨rfl, rfl, fun uri slot ⟨key', turn, hget, hturn⟩ => ?_⟩
      rw [List.getElem?_set] at hget
      split at hget
      · split at hget
        · cases hget; exact hturn.elim
        · cases hget
      · exact ⟨key', turn, hget, hturn⟩
  | answer accepted =>
    refine ⟨rfl, rfl, fun uri slot ⟨key, turn, hget, hturn⟩ => ?_⟩
    obtain ⟨⟨key', turn'⟩, hslot, heq⟩ :=
      Option.map_eq_some_iff.mp (List.getElem?_map.symm.trans hget)
    rcases resume_cases accepted (key', turn') with hsame | ⟨scan, sink, hscan⟩
    · cases hsame.symm.trans heq
      exact ⟨_, _, hslot, hturn⟩
    · cases hscan.symm.trans heq
      exact hturn.elim
  | setStorage storage ready => exact ⟨rfl, rfl, fun _ _ hi => hi⟩

lemma Engaged.happen_of_read (h : s.Engaged) {number : Nat} {notice : Notice} {j : Option Json}
    {params : Json} (hread : readParams notice.shape j = .ok params) :
    s.happen (.news ⟨number, notice, j⟩) = notice.handle s number params :=
  dispatch_of_read h.phase hread

lemma sent_didClose (hinit : s.desk.phase = .initialized) {number : Nat} {params : Json}
    (h : News.closingUri? params = some uri) :
    (s.didClose number params).desk.sent = s.desk.sent ++ [.publish uri [] none] := by
  unfold didClose
  split
  · next hnone => cases hnone.symm.trans h
  · next u hu =>
    cases (hu.symm.trans h : some u = some uri)
    show (Desk.send _ _).sent = _
    unfold Desk.send
    rw [if_pos (by simp [Desk.canSend, hinit])]

/-- By a close a document is not open any more, and its diagnostics disappear. -/
lemma Engaged.closed (h : s.Engaged) {m : News} (hm : m.closes uri = true) :
    uri ∉ (s.happen (.news m)).desk.opened ∧
      lastShown? (s.happen (.news m)).desk.sent uri = some [] := by
  obtain ⟨number, j, params, rfl, hread, huri⟩ := News.closing_of_closes hm
  rw [h.happen_of_read hread]
  show uri ∉ (s.didClose number params).desk.opened ∧
    lastShown? (s.didClose number params).desk.sent uri = some []
  rw [opened_didClose, huri, sent_didClose h.phase huri]
  exact ⟨fun hu => (h.nodup.mem_erase_iff.mp hu).1 rfl,
    (lastShown?_append ..).trans (if_pos rfl)⟩

/-- Only a message opens a document. -/
lemma Engaged.not_mem_opened (h : s.Engaged) (hu : uri ∉ s.desk.opened) {e : Event}
    (he : ∀ m, e = .news m → m.opens uri = false) : uri ∉ (s.happen e).desk.opened := by
  by_cases haside : e.isAside = true
  · rw [(s.happen_aside haside).1]
    exact hu
  cases e with
  | news m =>
    show uri ∉ (s.dispatch m.number m.call).desk.opened
    rw [mem_opened_dispatch h.phase h.nodup, decide_eq_false hu]
    exact Bool.eq_false_iff.mp (he m rfl)
  | proceed slot =>
    show uri ∉ (s.proceed slot).desk.opened
    rw [(h.proceed_spec slot).2.1.opened]
    exact hu
  | _ => exact absurd rfl haside

/-- What is shown of a document is taken back or stays as it is, unless a task gets on. -/
lemma Engaged.lastShown?_happen (h : s.Engaged) {e : Event} (he : ∀ slot, e ≠ .proceed slot)
    (hclear : lastShown? s.desk.sent uri = some []) :
    lastShown? (s.happen e).desk.sent uri = some [] := by
  by_cases haside : e.isAside = true
  · rw [(s.happen_aside haside).2.1]
    exact hclear
  cases e with
  | news m =>
    obtain ⟨d, turn, heq, htaken⟩ := takes_news h.phase h.wellFormed m
    show lastShown? (s.dispatch m.number m.call).desk.sent uri = some []
    rw [heq]
    cases htaken with
    | ignored => exact hclear
    | changed => exact hclear
    | closed u =>
      have hsend : (s.desk.rewritten (.remove u) (s.desk.opened.erase u)).canSend = true := by
        simp [Desk.canSend, Desk.rewritten, h.phase]
      unfold Desk.send
      rw [if_pos hsend]
      refine (lastShown?_append ..).trans ?_
      split
      · rfl
      · exact hclear
  | proceed slot => exact absurd rfl (he slot)
  | _ => exact absurd rfl haside

/-- A task that gets on leaves a document as it is unless it shows it. -/
lemma Engaged.proceed_clear_iff (h : s.Engaged) (hclear : lastShown? s.desk.sent uri = some [])
    (begun slot : Nat) :
    (lastShown? (s.proceed slot).desk.sent uri = some [] ∧
        (slot < begun → s.desk.workspace.registry.get? uri = none →
          (s.proceed slot).desk.workspace.registry.get? uri = none)) ↔
      ¬ s.Revives begun uri slot := by
  have hshows := (h.proceed_spec slot).2.1
  by_cases hds : ∃ ds, s.shows? slot = some (uri, ds)
  · obtain ⟨ds, hds⟩ := hds
    obtain ⟨hshown, hget⟩ := hshows.shown uri ds hds
    have hsome : (s.proceed slot).desk.workspace.registry.get? uri ≠ none := by
      rw [← Option.isSome_iff_ne_none]
      exact hget
    unfold Revives
    rw [hds, hshown]
    simp [hsome]
  · obtain ⟨hshown, hget⟩ := hshows.others uri fun ds hs => hds ⟨ds, hs⟩
    refine iff_of_true ⟨hshown.trans hclear, fun _ hnone => ?_⟩ fun ⟨ds, hs, _⟩ => hds ⟨ds, hs⟩
    rw [← Option.not_isSome_iff_eq_none, hget, hnone]
    simp

/-! ### Where a task has a document from -/

lemma eq_of_inHand_showing {u : Uri} (h : (Turn.more (Task.showing u)).HasInHand uri) :
    u = uri := by
  have hmem : Chore.publish uri ∈ [Chore.publish u, .publishDependents u] := h
  simpa [eq_comm] using hmem

lemma Engaged.inHand_news (h : s.Engaged) {m : News} (hopens : m.opens uri = false)
    (hi : (s.happen (.news m)).InHand uri slot) : s.InHand uri slot ∨ m.changes uri = true := by
  obtain ⟨number, notice, j⟩ := m
  cases hread : readParams notice.shape j with
  | error e =>
    have hignored : s.happen (.news ⟨number, notice, j⟩) = s.finish number .silent :=
      (dispatch_news h.phase ⟨number, notice, j⟩).trans (by rw [hread])
    rw [hignored] at hi
    exact .inl ((inHand_append rfl hi).resolve_right id)
  | ok params =>
    rw [h.happen_of_read hread] at hi
    cases notice with
    | opened =>
      refine (inHand_append (didOpen_spec number params).2 hi).imp_right fun hturn => ?_
      cases hopening : News.openingUri? params with
      | none => rw [hopening] at hturn; exact hturn.elim
      | some u =>
        rw [hopening] at hturn
        have hu : u = uri := eq_of_inHand_showing hturn
        simp [News.opens, News.leavesOpen, hread, hopening, hu] at hopens
    | changed =>
      obtain ⟨turn, htasks, hturn⟩ := tasks_didChange (s := s) number params
      rcases inHand_append htasks hi with hi | hhand
      · exact .inl hi
      · rcases hturn with rfl | ⟨u, hchanging, rfl⟩
        · exact hhand.elim
        · have hu : u = uri := eq_of_inHand_showing hhand
          exact .inr (by simp [News.changes, hread, hchanging, hu])
    | closed =>
      have htasks : (s.didClose number params).tasks =
          s.tasks ++ [(some number, .done .silent)] := by
        unfold didClose
        split <;> rfl
      exact .inl ((inHand_append htasks hi).resolve_right id)

/-- Of a document that is not open, only a change that comes in gives a task something to show. -/
lemma Engaged.inHand_happen (h : s.Engaged) (hu : uri ∉ s.desk.opened) {e : Event}
    (he : ∀ m, e = .news m → m.opens uri = false) (hi : (s.happen e).InHand uri slot) :
    s.InHand uri slot ∨ ∃ m, e = .news m ∧ m.changes uri = true := by
  by_cases haside : e.isAside = true
  · exact .inl ((s.happen_aside haside).2.2 uri slot hi)
  cases e with
  | news m => exact (h.inHand_news (he m rfl) hi).imp_right fun hm => ⟨m, rfl, hm⟩
  | proceed i => exact .inl (((h.proceed_spec i).2.2 uri slot hi).resolve_right hu)
  | _ => exact absurd rfl haside

/-! ### What an editor tells of a document that it closes -/

def closingParams (uri : String) : Json :=
  .object [("textDocument", .object [("uri", .text uri)])]

lemma read_closingParams {text : String} (h : (Uri.ofText? text).isSome = true) :
    readParams (Notice.shape .closed) (some (closingParams text)) = .ok (closingParams text) := by
  have hdocument : Shape.read false .document (.object [("uri", .text text)]) = _ :=
    read_record (by simp)
  simp only [Shape.collect, Shape.readField, Shape.read, readUri_text h] at hdocument
  unfold readParams closingParams Notice.shape Shape.closing
  dsimp only
  rw [read_record (by simp)]
  simp only [Shape.collect, Shape.readField, hdocument]
  rfl

lemma closes_closingParams {text : String} (h : Uri.ofText? text = some uri) (number : Nat) :
    News.closes uri ⟨number, .closed, some (closingParams text)⟩ = true := by
  have huri : News.closingUri? (closingParams text) = some uri := h
  unfold News.closes News.leavesOpen
  simp only [read_closingParams (Option.isSome_of_eq_some h), huri, bne_self_eq_false,
    Bool.and_false, Bool.not_false]

/-- A map is opened and closed. -/
def opening : News :=
  ⟨1, .opened, some (openingParams "file:///w.suma" "comlink-map" mapText)⟩

def closing : News := ⟨2, .closed, some (closingParams "file:///w.suma")⟩

lemma closes_closing : closing.closes (System.fileUri "w.suma") = true :=
  closes_closingParams (by decide +kernel) 2

/-- The two messages can be read, whatever happens between them. -/
lemma run_opening_closing {events : List Event} (h : s.Engaged) :
    s.run (.news opening :: events ++ [.news closing]) =
      ((s.didOpen 1 (openingParams "file:///w.suma" "comlink-map" mapText)).run events).didClose 2
        (closingParams "file:///w.suma") := by
  have huri : (Uri.ofText? "file:///w.suma").isSome = true := by decide +kernel
  have hopen : s.happen (.news opening) =
      s.didOpen 1 (openingParams "file:///w.suma" "comlink-map" mapText) :=
    h.happen_of_read (read_openingParams huri _ _)
  rw [List.cons_append, run_cons, run_append, hopen]
  exact ((hopen ▸ h.happen (.news opening)).run events).happen_of_read (read_closingParams huri)

/-! ### The whole of it -/

/-- What holds after a close, as long as the document is not opened again. -/
structure Closed (start : Server) (uri : Uri) (past : List Event) : Prop where
  engaged : (start.run past).Engaged
  notOpen : uri ∉ (start.run past).desk.opened
  inHand : ∀ slot, (start.run past).InHand uri slot →
    start.InHand uri slot ∨ ∃ m, .news m ∈ past ∧ m.changes uri = true

lemma closed_run (h : s.Engaged) (hu : uri ∉ s.desk.opened) {past : List Event}
    (hpast : ∀ m, .news m ∈ past → m.opens uri = false) : s.Closed uri past := by
  induction past using List.reverseRecOn with
  | nil => exact ⟨h, hu, fun _ => .inl⟩
  | append_singleton past e ih =>
    obtain ⟨hengaged, hnot, hhand⟩ := ih fun m hm => hpast m (List.mem_append_left _ hm)
    have he : ∀ m, e = .news m → m.opens uri = false := fun m hm =>
      hpast m (List.mem_append_right _ (List.mem_singleton.mpr hm.symm))
    have hrun : s.run (past ++ [e]) = (s.run past).happen e := run_append s past [e]
    refine ⟨hrun ▸ hengaged.happen e, hrun ▸ hengaged.not_mem_opened hnot he, fun slot hi => ?_⟩
    rw [hrun] at hi
    rcases hengaged.inHand_happen hnot he hi with hi | ⟨m, rfl, hm⟩
    · refine (hhand slot hi).imp_right fun ⟨m, hmem, hm⟩ => ⟨m, List.mem_append_left _ hmem, hm⟩
    · exact .inr ⟨m, List.mem_append_right _ List.mem_cons_self, hm⟩

/-- **A closed document stays clear exactly as long as no task brings it back**, in whatever order
messages come in and tasks get on. The only tasks that can do so had the document in hand when it
was closed, or come from a change that an editor makes to a document that it has closed. -/
theorem stays_closed_iff (storage : Storage) (greeting : Greeting) (ops : List Operation)
    (before : List Event) (m : News) (after : List Event) (uri : Uri)
    (hclose : m.closes uri = true) (hafter : ∀ m', .news m' ∈ after → m'.opens uri = false) :
    let s := (greeted storage greeting ops).run (before ++ [.news m])
    (s.StaysClosed uri after ↔ ∀ rest slot, rest ++ [.proceed slot] <+: after →
        ¬ (s.run rest).Revives s.tasks.length uri slot) ∧
      ∀ rest slot, rest ++ [.proceed slot] <+: after →
        (s.run rest).Revives s.tasks.length uri slot →
          s.InHand uri slot ∨ ∃ m', .news m' ∈ rest ∧ m'.changes uri = true := by
  intro s
  have hrun : s = ((greeted storage greeting ops).run before).happen (.news m) :=
    run_append _ before [.news m]
  have hstart := (engaged_greeted storage greeting ops).run before
  obtain ⟨hnot, hclear⟩ : uri ∉ s.desk.opened ∧ lastShown? s.desk.sent uri = some [] :=
    hrun ▸ hstart.closed hclose
  have hs : s.Engaged := hrun ▸ hstart.happen (.news m)
  have hclosed : ∀ past, past <+: after → s.Closed uri past := fun past hpast =>
    closed_run hs hnot fun m' hm' => hafter m' (hpast.subset hm')
  have hstep : ∀ past e, s.run (past ++ [e]) = (s.run past).happen e :=
    fun past e => run_append s past [e]
  have hpre : ∀ {past : List Event} {e}, past ++ [e] <+: after → past <+: after :=
    fun {past e} h => (List.prefix_append past [e]).trans h
  refine ⟨⟨fun h rest slot hrest => ?_, fun h => ?_⟩, fun rest slot hrest hrevives => ?_⟩
  · refine ((hclosed rest (hpre hrest)).engaged.proceed_clear_iff (h.clear rest (hpre hrest))
      s.tasks.length slot).mp ⟨?_, fun hlt hnone => ?_⟩
    · have hnext := h.clear _ hrest
      rwa [hstep] at hnext
    · have hnext := h.absent rest slot hrest hlt hnone
      rwa [hstep] at hnext
  · have hstays : ∀ past, past <+: after → lastShown? (s.run past).desk.sent uri = some [] := by
      intro past
      induction past using List.reverseRecOn with
      | nil => exact fun _ => hclear
      | append_singleton past e ih =>
        intro hpast
        have hengaged := (hclosed past (hpre hpast)).engaged
        have hbefore := ih (hpre hpast)
        rw [hstep]
        by_cases he : ∃ slot, e = .proceed slot
        · obtain ⟨slot, rfl⟩ := he
          exact ((hengaged.proceed_clear_iff hbefore _ slot).mpr (h past slot hpast)).1
        · exact hengaged.lastShown?_happen (fun slot hslot => he ⟨slot, hslot⟩) hbefore
    refine ⟨hstays, fun past slot hpast hlt hnone => ?_⟩
    rw [hstep]
    exact (((hclosed past (hpre hpast)).engaged.proceed_clear_iff (hstays past (hpre hpast)) _
      slot).mpr (h past slot hpast)).2 hlt hnone
  · obtain ⟨ds, hds, -⟩ := hrevives
    exact (hclosed rest (hpre hrest)).inHand slot (inHand_of_shows? hds)

/-- A map that was shown before it was closed does not come back. -/
theorem staysClosed_of_shown :
    closing.closes (System.fileUri "w.suma") = true ∧
      ((greeted System.noFiles ⟨[], none, false⟩ []).run
        (.news opening :: List.replicate 5 (.proceed 1) ++ [.news closing])).StaysClosed
          (System.fileUri "w.suma") [.proceed 1] := by
  refine ⟨closes_closing, (stays_closed_iff System.noFiles ⟨[], none, false⟩ []
    (.news opening :: List.replicate 5 (.proceed 1)) closing [.proceed 1] _ closes_closing
    (by simp)).1.mpr ?_⟩
  rintro rest slot ⟨more, hmore⟩ ⟨ds, hds, -⟩
  obtain ⟨rfl, rfl⟩ : rest = [] ∧ slot = 1 := by
    cases rest with
    | nil => exact ⟨rfl, (show slot = 1 ∧ more = [] by simpa using hmore).1⟩
    | cons e rest => exact absurd (congrArg List.length hmore) (by simp)
  rw [run_nil, run_opening_closing (engaged_greeted ..)] at hds
  exact absurd (Option.isSome_of_eq_some hds) (by decide +kernel)

/-! ### A document that comes back -/

/-- A file that cannot be read as a map. -/
def brokenFile : Storage :=
  MemoryFiles.storage ⟨[(.ofText "/w.suma", "profile =")], [], [], [], [], []⟩

/-- The scan goes on to its end, and then the task that the opening of the map has left. -/
def resuming : List Event := List.replicate 4 (.proceed 1) ++ List.replicate 4 (.proceed 2)

/-- A map is closed while its diagnostics wait for a scan, and is shown after that as its file
is. -/
theorem not_staysClosed_of_resuming :
    closing.closes (System.fileUri "w.suma") = true ∧ (∀ m, .news m ∉ resuming) ∧
      ¬ ((greeted brokenFile ⟨[System.fileUri "ws"], none, false⟩ []).run
        ([.startScan, .news opening] ++ [.news closing])).StaysClosed (System.fileUri "w.suma")
          resuming := by
  refine ⟨closes_closing, by simp [resuming], fun hstays => ?_⟩
  have hclear := hstays.clear resuming (List.prefix_refl _)
  rw [List.cons_append, run_cons, run_opening_closing ((engaged_greeted ..).happen _)] at hclear
  exact absurd (congrArg (Option.map List.length) hclear) (by decide +kernel)

end Server

end Contracts
