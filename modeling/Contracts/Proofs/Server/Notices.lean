import Contracts.Server.Server
import Contracts.Proofs.Server.Showing

/-!
Messages about documents, and what each of them does at once.

A message that cannot be read or is refused does nothing. Every other one gives one document a text
or takes it out, and either the document is left to be shown or its diagnostics disappear.
-/

namespace Contracts

/-- What an editor tells about its documents. -/
inductive Notice where
  | opened
  | changed
  | closed

namespace Notice

def method : Notice → String
  | .opened => "textDocument/didOpen"
  | .changed => "textDocument/didChange"
  | .closed => "textDocument/didClose"

def shape : Notice → Shape
  | .opened => .opening
  | .changed => .changing
  | .closed => .closing

def handle (s : Server) (number : Nat) (params : Json) : Notice → Server
  | .opened => s.didOpen number params
  | .changed => s.didChange number params
  | .closed => s.didClose number params

end Notice

/-- A message about a document, with its number. -/
structure News where
  number : Nat
  notice : Notice
  params : Option Json

namespace News

open Server

def call (m : News) : Call := ⟨m.notice.method, none, m.params⟩

/-- The document that params open. One of no known kind is refused. -/
def openingUri? (params : Json) : Option Uri := do
  let item := (params.field? "textDocument").getD .null
  let uri ← item.field? "uri" >>= readUri?
  let language ← item.field? "languageId" >>= readText?
  let _ ← item.field? "version" >>= readVersion?
  let _ ← item.field? "text" >>= readText?
  if (Kind.ofLanguage? language <|> Kind.ofUri? uri).isSome then some uri else none

/-- The document that params give another text, if it is registered. -/
def changingUri? (params : Json) : Option Uri :=
  ((params.field? "textDocument").getD .null).field? "uri" >>= readUri?

def closingUri? (params : Json) : Option Uri :=
  (params.field? "textDocument").bind (·.field? "uri") >>= readUri?

/-- Whether a document is open after a message, where it was open before it or not. -/
def leavesOpen (uri : Uri) (wasOpen : Bool) (m : News) : Bool :=
  match m.notice, readParams m.notice.shape m.params with
  | .opened, .ok params => wasOpen || openingUri? params == some uri
  | .closed, .ok params => wasOpen && closingUri? params != some uri
  | _, _ => wasOpen

/-- Whether an editor has opened a document with these messages and not closed it since. -/
def leaveOpen (messages : List News) (uri : Uri) : Bool :=
  messages.foldl (leavesOpen uri) false

end News

/-! ### What a message does at once -/

/-- A desk at which messages are handled one at a time. -/
structure Desk.Serving (d : Desk) : Prop where
  phase : d.phase = .initialized
  scans : d.workspace.scans = 0
  letGo : d.held ≤ d.released + d.unread
  backed : d.workspace.registry.Backed
  nodup : d.opened.Nodup
  registered : ∀ uri ∈ d.opened, (d.workspace.registry.get? uri).isSome = true

/-- The desk after an operation on the registry, with these documents open. -/
def Desk.rewritten (d : Desk) (op : Operation) (opened : List Uri) : Desk :=
  { d with
    workspace := { d.workspace with registry := d.workspace.registry.apply op }
    opened := opened }

namespace Desk

lemma phase_send (d : Desk) (m : Message) : (d.send m).phase = d.phase := by
  unfold send
  split <;> rfl

lemma workspace_send (d : Desk) (m : Message) : (d.send m).workspace = d.workspace := by
  unfold send
  split <;> rfl

lemma opened_send (d : Desk) (m : Message) : (d.send m).opened = d.opened := by
  unfold send
  split <;> rfl

end Desk

namespace Desk.Serving

open Registry

variable {d : Desk}

lemma send_eq (h : d.Serving) (m : Message) :
    d.send m = { d with sent := d.sent ++ [m], unread := d.unread + 1 } :=
  if_pos (by simp [canSend, h.phase])

lemma send (h : d.Serving) (m : Message) : (d.send m).Serving := by
  rw [h.send_eq]
  have hletGo := h.letGo
  refine ⟨h.phase, h.scans, ?_, h.backed, h.nodup, h.registered⟩
  show d.held ≤ d.released + (d.unread + 1)
  omega

/-- Chores change nothing about it, as long as the editor keeps up. -/
lemma frame {d' : Desk} (h : d.Serving) (hf : d.Frame d')
    (hletGo : d'.held ≤ d'.released + d'.unread) : d'.Serving where
  phase := hf.phase.trans h.phase
  scans := hf.view.scans.trans h.scans
  letGo := hletGo
  backed := hf.view.backed h.backed
  nodup := by
    rw [show d'.opened = d.opened from hf.view.opened]
    exact h.nodup
  registered u hu := by
    rw [hf.isSome h.backed.wellFormed]
    exact h.registered u (hf.view.mem_opened.mp hu)

/-- What is open has to be registered, and that is in question only for what is rewritten. -/
lemma rewritten (h : d.Serving) {op : Operation} {uri : Uri} {opened : List Uri}
    (hop : op.rewrites uri = true) (hnodup : opened.Nodup)
    (hopened : ∀ u ∈ opened, u ≠ uri → u ∈ d.opened)
    (hget : uri ∈ opened → ((d.workspace.registry.apply op).get? uri).isSome = true) :
    (d.rewritten op opened).Serving := by
  refine ⟨h.phase, h.scans, h.letGo, h.backed.apply op, hnodup, fun u hu => ?_⟩
  by_cases hne : u = uri
  · subst hne
    exact hget hu
  · show ((d.workspace.registry.apply op).get? u).isSome = true
    rw [get?_of_rewrites h.backed.wellFormed hop hne, Option.isSome_map]
    exact h.registered u (hopened u hu hne)

end Desk.Serving

/-- What the handling of a message does at once, and what it leaves to do. -/
inductive Taken (d : Desk) : Desk → Turn Task Handled → Prop where
  /-- A message that cannot be read or is refused. -/
  | ignored : Taken d d (.done .silent)
  | changed {uri : Uri} {op : Operation} {opened : List Uri} (hop : op.rewrites uri = true)
      (hget : ((d.workspace.registry.apply op).get? uri).isSome = true)
      (hopened : opened = d.opened ∨ opened = d.opened.insert uri) :
      Taken d (d.rewritten op opened) (.more (.showing uri))
  | closed (uri : Uri) :
      Taken d ((d.rewritten (.remove uri) (d.opened.erase uri)).send (.publish uri [] none))
        (.done .silent)

namespace Taken

open Registry

variable {d d' : Desk} {turn : Turn Task Handled}

lemma mem_of_changed {uri u : Uri} {opened : List Uri}
    (hopened : opened = d.opened ∨ opened = d.opened.insert uri) (hu : u ∈ opened) (hne : u ≠ uri) :
    u ∈ d.opened := by
  rcases hopened with rfl | rfl
  · exact hu
  · exact (List.mem_insert_iff.mp hu).resolve_left hne

lemma rewritten_closed (hd : d.Serving) (uri : Uri) :
    (d.rewritten (.remove uri) (d.opened.erase uri)).Serving :=
  hd.rewritten (decide_eq_true rfl) (hd.nodup.erase uri) (fun _ hu _ => List.mem_of_mem_erase hu)
    fun hu => absurd rfl (hd.nodup.mem_erase_iff.mp hu).1

lemma serving (h : Taken d d' turn) (hd : d.Serving) : d'.Serving := by
  cases h with
  | ignored => exact hd
  | changed hop hget hopened =>
    refine hd.rewritten hop ?_ (fun u hu hne => mem_of_changed hopened hu hne) fun _ => hget
    rcases hopened with rfl | rfl
    · exact hd.nodup
    · exact hd.nodup.insert
  | closed uri => exact (rewritten_closed hd uri).send _

/-- The bound on the steps of a pool pays for all that is left to do. -/
lemma budget (h : Taken d d' turn) {dones : List (Option Nat × Turn Task Handled)} (number : Nat)
    (hdones : ∀ slot ∈ dones, isDone slot) :
    d'.unread + turn.weight d'.workspace.registry.documents.length ≤
      Task.rules.budget d' (Pool.tasks (line dones number turn)) := by
  rw [tasks_line hdones]
  cases h with
  | ignored | closed =>
    simp only [Turn.weight, Task.rules, List.foldl_cons, List.foldl_nil, Task.budget]
    omega
  | changed =>
    simp only [Turn.weight, Task.showing, Task.weight, Chore.weight, Task.rules, List.foldl_cons,
      List.foldl_nil, Task.budget, Task.reach, List.map_cons, List.map_nil, List.sum_cons,
      List.sum_nil, List.length_cons, List.length_nil]
    omega

lemma ready (h : Taken d d' turn) : turn.Ready d'.workspace.registry d'.held := by
  cases h with
  | ignored | closed => trivial
  | changed hop hget =>
    intro c hc
    rcases List.mem_cons.mp hc with rfl | hc
    · exact hget
    · cases List.mem_singleton.mp hc
      exact hget

/-- In the end the message has led to nothing, or to something about one document. -/
lemma about (h : Taken d d' turn) (hd : d.Serving) :
    turn.outcome d'.view = d.view ∨
      ∃ uri op, View.About d.view (turn.outcome d'.view) uri op := by
  have hd' := h.serving hd
  cases h with
  | ignored => exact .inl rfl
  | @changed uri op opened hop hget hopened =>
    refine .inr ⟨uri, op, ?_⟩
    have hspec := View.showing_spec (v := (d.rewritten op opened).view) hd'.backed hd'.scans hget
    obtain ⟨hq, hconcerned, hothers⟩ := hspec
    refine ⟨hop, hq.registry, fun u hu hne => ?_, fun u hu hc => hconcerned u ?_ hc,
      fun u hc => hothers u hc⟩
    · exact mem_of_changed hopened (hq.mem_opened.mp hu) hne
    · exact List.contains_iff_mem.mpr (hq.mem_opened.mp hu)
  | closed uri =>
    have hsend := (rewritten_closed hd uri).send_eq (.publish uri [] none)
    refine .inr ⟨uri, .remove uri, ?_⟩
    show d.view.About (Desk.view (Desk.send _ _)) uri (.remove uri)
    rw [hsend]
    refine ⟨by simp [Operation.rewrites], ⟨[], by simp, rfl⟩,
      fun u hu _ => List.mem_of_mem_erase hu, fun u hu hc => ?_, fun u hc => ⟨?_, rfl⟩⟩
    · rcases hc with rfl | ⟨key, ⟨p, hp, -⟩, -⟩
      · exact absurd rfl (hd.nodup.mem_erase_iff.mp hu).1
      · cases (get?_remove hd.backed.wellFormed).symm.trans hp
    · exact (lastShown?_append ..).trans (if_neg fun hu => hc (.inl hu.symm))

end Taken

namespace Server

open Registry

variable {s : Server}

/-- What a message does at once, and what is to be done about it. -/
def Takes (s : Server) (number : Nat) (s' : Server) : Prop :=
  ∃ d turn, s' = ⟨d, s.tasks ++ [(some number, turn)]⟩ ∧ Taken s.desk d turn

lemma takes_silent (s : Server) (number : Nat) : s.Takes number (s.finish number .silent) :=
  ⟨_, _, rfl, .ignored⟩

lemma accepted_toOption {c : Workspace.Call} {d : Document} {w : Workspace} :
    c.accepted.toOption = some (d, w) ↔ c = (.ok d, w) := by
  obtain ⟨e | d', w'⟩ := c <;> simp [Workspace.Call.accepted, Except.toOption]

lemma takes_didOpen (hr : s.desk.workspace.registry.WellFormed) (number : Nat)
    (params : Json) : s.Takes number (s.didOpen number params) := by
  unfold didOpen
  dsimp only
  split
  · exact takes_silent s number
  · next uri w h =>
    simp only [Option.bind_eq_bind, Option.bind_eq_some_iff] at h
    obtain ⟨u, -, language, -, version, -, text, -, ⟨d, w'⟩, hopen, hpair⟩ := h
    cases hpair
    unfold Workspace.openDocument at hopen
    split at hopen
    · cases hopen
    · next kind hkind =>
      cases hopen
      exact ⟨s.desk.rewritten (.create uri kind version text) (s.desk.opened.insert uri), _, rfl,
        .changed (decide_eq_true rfl) (isSome_get?_create hr) (.inr rfl)⟩

lemma takes_didChange (hr : s.desk.workspace.registry.WellFormed) (number : Nat)
    (params : Json) : s.Takes number (s.didChange number params) := by
  unfold didChange
  dsimp only
  split
  · exact takes_silent s number
  · next uri w h =>
    simp only [Option.bind_eq_bind, Option.bind_eq_some_iff] at h
    obtain ⟨u, -, version, -, edits, -, ⟨d, w'⟩, hchange, hpair⟩ := h
    cases hpair
    have hcall := accepted_toOption.mp hchange
    have hresult : (s.desk.workspace.registry.update uri edits version).1 = .ok d :=
      congrArg Prod.fst hcall
    obtain rfl : (s.desk.workspace.changeDocument uri edits version).2 = w' :=
      congrArg Prod.snd hcall
    refine ⟨s.desk.rewritten (.update uri edits version) s.desk.opened, _, rfl,
      .changed (decide_eq_true rfl) ?_ (.inl rfl)⟩
    cases hg : s.desk.workspace.registry.get? uri with
    | none =>
      rw [update_of_none hg] at hresult
      cases hresult
    | some e =>
      rw [get?_apply hr hg rfl]
      rfl

lemma takes_didClose (s : Server) (number : Nat) (params : Json) :
    s.Takes number (s.didClose number params) := by
  unfold didClose
  split
  · exact takes_silent s number
  · next uri _ =>
    exact ⟨(s.desk.rewritten (.remove uri) (s.desk.opened.erase uri)).send (.publish uri [] none),
      _, rfl, .closed uri⟩

/-- An initialized server reads what a message says, and handles it if that can be read. -/
lemma dispatch_news (hinit : s.desk.phase = .initialized) (m : News) :
    s.dispatch m.number m.call =
      match readParams m.notice.shape m.params with
      | .ok params => m.notice.handle s m.number params
      | .error _ => s.finish m.number .silent := by
  obtain ⟨number, notice, params⟩ := m
  obtain ⟨⟨⟩, tasks⟩ := s
  cases hinit
  cases notice <;> rfl

lemma dispatch_of_read (hinit : s.desk.phase = .initialized) {number : Nat} {notice : Notice}
    {j : Option Json} {params : Json} (hread : readParams notice.shape j = .ok params) :
    s.dispatch number (News.call ⟨number, notice, j⟩) = notice.handle s number params :=
  (dispatch_news hinit ⟨number, notice, j⟩).trans (by rw [hread])

lemma takes_news (hinit : s.desk.phase = .initialized) (hr : s.desk.workspace.registry.WellFormed)
    (m : News) : s.Takes m.number (s.dispatch m.number m.call) := by
  rw [dispatch_news hinit]
  split
  · next params _ =>
    cases m.notice
    · exact takes_didOpen hr m.number params
    · exact takes_didChange hr m.number params
    · exact takes_didClose s m.number params
  · exact takes_silent s m.number

/-! ### What is open, and what is to be done -/

lemma didOpen_spec (number : Nat) (params : Json) :
    (s.didOpen number params).desk.opened =
        (News.openingUri? params).elim s.desk.opened s.desk.opened.insert ∧
      (s.didOpen number params).tasks = s.tasks ++ [(some number,
        (News.openingUri? params).elim (.done .silent) fun uri => .more (.showing uri))] := by
  unfold didOpen News.openingUri?
  dsimp only
  generalize (params.field? "textDocument").getD .null = item
  rcases item.field? "uri" >>= readUri? with _ | uri
  · exact ⟨rfl, rfl⟩
  rcases item.field? "languageId" >>= readText? with _ | language
  · exact ⟨rfl, rfl⟩
  rcases item.field? "version" >>= readVersion? with _ | version
  · exact ⟨rfl, rfl⟩
  rcases item.field? "text" >>= readText? with _ | text
  · exact ⟨rfl, rfl⟩
  unfold Workspace.openDocument
  generalize hkind : (Kind.ofLanguage? language <|> Kind.ofUri? uri) = kind?
  cases kind? with
  | none =>
    simp only [Option.bind_eq_bind, Option.bind_some, hkind]
    exact ⟨rfl, rfl⟩
  | some kind =>
    simp only [Option.bind_eq_bind, Option.bind_some, hkind]
    exact ⟨rfl, rfl⟩

lemma opened_didChange (number : Nat) (params : Json) :
    (s.didChange number params).desk.opened = s.desk.opened := by
  unfold didChange
  dsimp only
  split <;> rfl

lemma tasks_didChange (number : Nat) (params : Json) : ∃ turn,
    (s.didChange number params).tasks = s.tasks ++ [(some number, turn)] ∧
      (turn = .done .silent ∨
        ∃ uri, News.changingUri? params = some uri ∧ turn = .more (.showing uri)) := by
  unfold didChange
  dsimp only
  split
  · exact ⟨_, rfl, .inl rfl⟩
  · next uri w h =>
    simp only [Option.bind_eq_bind, Option.bind_eq_some_iff] at h
    obtain ⟨u, huri, version, -, edits, -, ⟨d, w'⟩, -, hpair⟩ := h
    cases hpair
    exact ⟨_, rfl, .inr ⟨uri, Option.bind_eq_some_iff.mpr huri, rfl⟩⟩

lemma opened_didClose (number : Nat) (params : Json) :
    (s.didClose number params).desk.opened =
      (News.closingUri? params).elim s.desk.opened s.desk.opened.erase := by
  unfold didClose News.closingUri?
  split
  · next h =>
    rw [h]
    rfl
  · next uri h =>
    rw [h]
    show (Desk.send _ _).opened = _
    rw [Desk.opened_send]
    rfl

/-- What is open goes by what the messages say. -/
lemma mem_opened_dispatch (hinit : s.desk.phase = .initialized) (hnodup : s.desk.opened.Nodup)
    (m : News) (uri : Uri) : uri ∈ (s.dispatch m.number m.call).desk.opened ↔
      m.leavesOpen uri (decide (uri ∈ s.desk.opened)) = true := by
  rw [dispatch_news hinit]
  unfold News.leavesOpen
  rcases readParams m.notice.shape m.params with e | params
  · cases m.notice <;> simp [finish, add]
  cases m.notice with
  | opened =>
    show uri ∈ (s.didOpen m.number params).desk.opened ↔ _
    rw [(didOpen_spec m.number params).1]
    cases h : News.openingUri? params with
    | none => simp [h]
    | some u => simp [h, or_comm, eq_comm (a := u)]
  | changed =>
    show uri ∈ (s.didChange m.number params).desk.opened ↔ _
    simp [opened_didChange]
  | closed =>
    show uri ∈ (s.didClose m.number params).desk.opened ↔ _
    rw [opened_didClose]
    cases h : News.closingUri? params with
    | none => simp [h]
    | some u => simp [h, hnodup.mem_erase_iff, and_comm, eq_comm (a := u)]

end Server

end Contracts
