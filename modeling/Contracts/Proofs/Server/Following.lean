import Contracts.Server.Server
import Contracts.Proofs.Editor.Units
import Contracts.Proofs.Work.Loading

/-!
Texts that follow an editor.

An editor shows a text and tells its changes as it makes them. The server accepts them or not, and
meanwhile loads, scans and questions go on. The server never names an encoding of points, so an
editor counts in units of UTF-16, whatever encodings it offers. As long as that comes to the same as
to count characters, the text that is registered is the one that the editor shows.
-/

namespace Contracts

variable {changes : List (List Edit × Int)}

/-- Changes that come in several messages are as good as all in one. -/
lemma applyEdits_flatMap (text : String) (changes : List (List Edit × Int)) :
    applyEdits text (changes.flatMap (·.1)) =
      changes.foldl (fun text change => applyEdits text change.1) text := by
  induction changes generalizing text with
  | nil => exact String.ofList_toList
  | cons change changes ih => rw [List.flatMap_cons, applyEdits_append, ih, List.foldl_cons]

/-- A document that grew by changes of an editor has the text that the editor shows. -/
lemma Document.Grown.text_of_edited {first d : Document} {shown : List Char}
    (hg : Grown first changes d)
    (h : Edited Plain first.text.toList (changes.flatMap (·.1)) shown) :
    d.text = String.ofList shown := by
  rw [hg.text, ← applyEdits_flatMap, applyEdits_of_edited h]

/-- The first greeting of an editor that has its shape is answered with the abilities. -/
lemma Server.tasks_of_greeting {s : Server} {number : Nat} {call : Call} {id params : Json}
    (hphase : s.desk.phase = .uninitialized) (hmethod : call.method = "initialize")
    (hid : call.id = some id) (hparams : readParams .greeting call.params = .ok params) :
    (s.dispatch number call).tasks =
      s.tasks ++ [(some number, .done (.response (responseJson id (.ok abilities))))] := by
  have hexit : ¬ call.method = "exit" := by rw [hmethod]; decide
  have hcancel : ¬ call.method = "$/cancelRequest" := by rw [hmethod]; decide
  unfold dispatch
  rw [if_neg hexit, if_neg hcancel, if_pos hmethod]
  simp only [hphase, hid, hparams]
  rfl

namespace System

open Server

/-- **Texts follow editors.** (1) Whatever else goes on, until a uri is opened again or closed: if
the editor shows the text of its document and tells each change by points that address plain places,
then the text with the changes that were accepted is the one that the editor shows. (2) No more is
true: of the places that an editor may address, its points lead back to the plain ones only.
(3) An editor does count in units: whatever encodings it offers in its greeting, the answer asks for
changes of ranges and names no encoding of points. -/
theorem text_follows_editor (storage : Storage) (earlier window : List Action) (uri : Uri)
    (d : Document) (hd : ((ofStorage storage).run earlier).registry.get? uri = some d)
    (hwindow : ∀ a ∈ window, a.replaces uri = false) :
    let s := (ofStorage storage).run earlier
    let told := (s.accepted uri window).flatMap (·.1)
    (∃ e, (s.run window).registry.get? uri = some e ∧
      ∀ shown, Edited Plain d.text.toList told shown → e.text = String.ofList shown) ∧
    (∀ before after, Addressable before after →
      ((unitPoint before).offset (before ++ after) = byteLength before ↔ Plain before after)) ∧
    (∀ (server : Server) number call id params, server.desk.phase = .uninitialized →
      call.method = "initialize" → call.id = some id →
      readParams .greeting call.params = .ok params →
      (server.dispatch number call).tasks =
        server.tasks ++ [(some number, .done (.response (responseJson id (.ok abilities))))]) ∧
    ∃ can, abilities.field? "capabilities" = some can ∧
      can.field? "textDocumentSync" = some (.nat 2) ∧ can.field? "positionEncoding" = none := by
  intro s told
  have hr : s.registry.WellFormed := wellFormed_run storage earlier
  have honly : s.registry.OnlyArrival uri s.registry.nextId d.id :=
    fun e he _ hle => absurd (hr.fresh e he) (Nat.not_lt.mpr hle)
  obtain ⟨e, he, hg, -⟩ := run_of_registered hr hwindow hd (Document.Grown.refl d) honly
  exact ⟨⟨e, he, fun shown h => hg.text_of_edited h⟩, fun before after => offset_unitPoint_iff,
    fun server number call id params => tasks_of_greeting, _, rfl, rfl, rfl⟩

/-- An editor shows a text that ends with a character of two units. It puts a line feed and the
character in place of all behind the first character, asks for an outline, and types in front of the
last line. Its greeting leaves out all that it may. -/
theorem text_follows_editor_smile :
    let uri := fileUri "w.suma"
    let earlier : List Action := [.openDocument uri "comlink-map" 1 "é\r\nx😀"]
    let window : List Action :=
      [.changeDocument uri [⟨some ⟨⟨0, 1⟩, ⟨1, 3⟩⟩, "\n😀"⟩] 2, .ask (.outline uri), .proceed 0,
        .changeDocument uri [⟨some ⟨⟨1, 0⟩, ⟨1, 0⟩⟩, "!"⟩] 3]
    let s := (ofStorage noFiles).run earlier
    let told := (s.accepted uri window).flatMap (·.1)
    let nothing := List.replicate 4 Json.null
    let greeting := Json.list (nothing ++ .list (.null :: nothing) :: nothing)
    (∀ a ∈ window, a.replaces uri = false) ∧
      Edited Plain "é\r\nx😀".toList told "é\n!😀".toList ∧
      (∃ e, (s.run window).registry.get? uri = some e ∧ e.text = "é\n!😀") ∧
      (unitPoint "é\r\nx😀".toList).offset "é\r\nx😀".toList = 9 ∧
      ((Server.ofStorage noFiles).dispatch 0
        ⟨"initialize", some (.nat 1), some greeting⟩).tasks.length = 2 := by
  intro uri earlier window s told nothing greeting
  have hwindow : ∀ a ∈ window, a.replaces uri = false := by decide
  have htyped : Edited Plain ("é\n".toList ++ [] ++ "😀".toList)
      [⟨some ⟨⟨1, 0⟩, ⟨1, 0⟩⟩, "!"⟩] "é\n!😀".toList := .range (by decide) (by decide) (.done _)
  have hedited : Edited Plain "é\r\nx😀".toList told "é\n!😀".toList :=
    show Edited Plain ("é".toList ++ "\r\nx😀".toList ++ []) told _ from
      .range (by decide) (by decide) htyped
  obtain ⟨⟨e, he, htext⟩, hplaces, hgreeting, -⟩ :=
    text_follows_editor noFiles earlier window uri _ rfl hwindow
  refine ⟨hwindow, hedited, ⟨e, he, htext _ hedited⟩,
    (hplaces _ [] (by decide)).mpr (by decide), ?_⟩
  exact congrArg List.length (hgreeting (Server.ofStorage noFiles) 0
    ⟨"initialize", some (.nat 1), some greeting⟩ (.nat 1) _ rfl rfl rfl rfl)

/-- Behind a character of two units the editor takes out an `a`, the server the `b` behind it. -/
theorem text_lags_behind_smile :
    let uri := fileUri "w.suma"
    let s := (ofStorage noFiles).run [.openDocument uri "comlink-map" 1 "😀ab"]
    let window : List Action := [.changeDocument uri [⟨some ⟨⟨0, 2⟩, ⟨0, 3⟩⟩, ""⟩] 2]
    (s.accepted uri window).length = 1 ∧
      Edited Addressable "😀ab".toList ((s.accepted uri window).flatMap (·.1)) "😀b".toList ∧
      ∃ e, (s.run window).registry.get? uri = some e ∧ e.text = "😀a" ∧ e.text ≠ "😀b" := by
  intro uri s window
  have hedited : Edited Addressable ("😀".toList ++ "a".toList ++ "b".toList)
      ((s.accepted uri window).flatMap (·.1)) "😀b".toList :=
    .range (by decide) (by decide) (.done _)
  have htext : applyEdits "😀ab" [⟨some ⟨⟨0, 2⟩, ⟨0, 3⟩⟩, ""⟩] = "😀a" := by decide +kernel
  exact ⟨rfl, hedited, _, rfl, htext, htext ▸ by decide⟩

end System

end Contracts
