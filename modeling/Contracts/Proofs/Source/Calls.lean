import Contracts.Proofs.Source.Braces

/-!
The call sites of a body, read a second time from its tokens.

The grammar looks for calls while it goes through nested bodies, and has other alternatives to try
before it comes to one. A reading that knows nothing of this goes over the tokens once: it joins
letters, digits and underscores to names that are as long as possible, leaves out what separates
names, and takes every `call` with a name behind it. The two readings find the same calls at the
same places.
-/

namespace Contracts

open Spelling

/-! ### A second reading -/

/-- A name with the place where it stands, or any other token. -/
inductive Piece where
  | word (span : Span) (name : String)
  | token (t : Token)
deriving DecidableEq, Repr

/-- The characters that a name goes on with. -/
def nameRun : List Token → List Char
  | .character ch :: ts => if Token.isIdentChar ch then ch :: nameRun ts else []
  | _ => []

/-- The pieces that some tokens make up, the first of which begins at `offset`. -/
def pieces (offset : Nat) : List Token → List Piece
  | [] => []
  | .character ch :: ts =>
    if Token.isIdentStart ch then
      let name := ch :: nameRun ts
      let stop := offset + byteLength name
      .word ⟨offset, stop⟩ (String.ofList name) :: pieces stop (ts.drop (nameRun ts).length)
    else .token (.character ch) :: pieces (offset + ch.utf8Size) ts
  | t :: ts => .token t :: pieces (offset + byteLength t.text) ts
termination_by ts => ts.length
decreasing_by all_goals simp only [List.length_drop, List.length_cons]; omega

/-- A blank or a comment. -/
def Piece.isSeparator : Piece → Bool
  | .token (.comment _) => true
  | .token (.character ch) => ch ∈ [' ', '\t', '\r', '\n']
  | _ => false

/-- Every `call` that has a name next to it, with that name. -/
def callsOf (lines : Lines) : List Piece → List CallSite
  | [] => []
  | .word span word :: .word span' operation :: ps =>
    if word = "call" then ⟨operation, lines.location span.start span'.stop⟩ :: callsOf lines ps
    else callsOf lines (.word span' operation :: ps)
  | _ :: ps => callsOf lines ps

/-- The call sites among some tokens, the first of which begins at `offset`. -/
def callsAmong (lines : Lines) (offset : Nat) (ts : List Token) : List CallSite :=
  callsOf lines ((pieces offset ts).filter fun p => !p.isSeparator)

/-! ### Pieces -/

section

variable {lines : Lines} {n : Nat} {ch : Char} {more : List Char} {t : Token} {ts us : List Token}
  {span span' : Span} {word operation : String} {ps qs : List Piece}

lemma nameRun_append (hmore : ∀ x ∈ more, Token.isIdentChar x = true) (hend : nameRun ts = []) :
    nameRun (more.map .character ++ ts) = more := by
  induction more with
  | nil => exact hend
  | cons x xs ih =>
    have hxs := ih fun y hy => hmore y (List.mem_cons_of_mem x hy)
    simp [nameRun, hmore x List.mem_cons_self, hxs]

/-- A name is one piece where no longer one begins. -/
lemma pieces_word (hstart : Token.isIdentStart ch = true)
    (hmore : ∀ x ∈ more, Token.isIdentChar x = true) (hend : nameRun ts = []) :
    pieces n ((ch :: more).map .character ++ ts) =
      .word ⟨n, n + byteLength (ch :: more)⟩ (String.ofList (ch :: more)) ::
        pieces (n + byteLength (ch :: more)) ts := by
  rw [List.map_cons, List.cons_append, pieces, if_pos hstart, nameRun_append hmore hend]
  simp

/-- Any other token is a piece for itself. -/
lemma pieces_token (ht : ∀ ch, t = .character ch → Token.isIdentStart ch = false) :
    pieces n (t :: ts) = .token t :: pieces (n + byteLength t.text) ts := by
  cases t with
  | character ch => simp [pieces, ht ch rfl, Token.text]
  | _ => simp [pieces]

lemma nameRun_append_closing :
    nameRun (ts ++ .character '}' :: us) = nameRun ts := by
  fun_induction nameRun ts with
  | case1 ch ts hch ih => simp [nameRun, hch, ih]
  | case2 ch ts hch => simp [nameRun, hch]
  | case3 ts hts =>
    cases ts with
    | nil => simp [nameRun]; decide
    | cons t ts =>
      cases t with
      | character ch => exact absurd rfl (hts ch ts)
      | _ => rfl

lemma eq_nameRun_append (ts : List Token) :
    ts = (nameRun ts).map .character ++ ts.drop (nameRun ts).length := by
  fun_induction nameRun ts with
  | case1 ch ts hch ih => simpa using ih
  | case2 => rfl
  | case3 => rfl

lemma byteLength_nameRun (ts : List Token) : byteLength (ts.flatMap Token.text) =
    byteLength (nameRun ts) + byteLength ((ts.drop (nameRun ts).length).flatMap Token.text) := by
  have hrun : ((nameRun ts).map Token.character).flatMap Token.text = nameRun ts := by
    simp [List.flatMap_map, Token.text]
  conv_lhs => rw [eq_nameRun_append ts, List.flatMap_append, byteLength_append, hrun]

/-- No piece reaches over a closing brace. -/
lemma pieces_append_closing : pieces n (ts ++ .character '}' :: us) = pieces n ts ++
    .token (.character '}') :: pieces (n + byteLength (ts.flatMap Token.text) + 1) us := by
  fun_induction pieces n ts with
  | case1 n => exact pieces_token fun ch h => by cases h; decide
  | case2 n ch ts hstart name stop ih =>
    have hdrop : (ts ++ .character '}' :: us).drop (nameRun ts).length =
        ts.drop (nameRun ts).length ++ .character '}' :: us := by
      refine List.drop_append_of_le_length ?_
      have := congrArg List.length (eq_nameRun_append ts)
      simp at this
      omega
    have hstop : n + byteLength ((Token.character ch :: ts).flatMap Token.text) =
        stop + byteLength ((ts.drop (nameRun ts).length).flatMap Token.text) := by
      rw [List.flatMap_cons, byteLength_append, byteLength_nameRun ts]
      simp only [stop, name, Token.text, byteLength_cons, byteLength_nil]
      omega
    rw [List.cons_append, pieces, if_pos hstart, nameRun_append_closing, hdrop, hstop]
    exact congrArg _ ih
  | case3 n ch ts hstart ih =>
    rw [List.cons_append, pieces, if_neg hstart, ih, List.flatMap_cons, byteLength_append,
      ← Nat.add_assoc]
    rfl
  | case4 n t ts ht ih =>
    rw [List.cons_append, pieces_token fun ch h => absurd h (ht ch), ih, List.flatMap_cons,
      byteLength_append, ← Nat.add_assoc]
    rfl

/-! ### Calls -/

lemma callsOf_token : callsOf lines (.token t :: ps) = callsOf lines ps := rfl

lemma callsOf_call : callsOf lines (.word span "call" :: .word span' operation :: ps) =
    ⟨operation, lines.location span.start span'.stop⟩ :: callsOf lines ps :=
  if_pos rfl

/-- A name calls nothing unless it is `call` and has a name next to it. -/
lemma callsOf_word (h : word = "call" → ∀ span' operation qs, ps ≠ .word span' operation :: qs) :
    callsOf lines (.word span word :: ps) = callsOf lines ps := by
  match ps with
  | [] => rfl
  | .token t :: ps => rfl
  | .word span' operation :: ps => exact if_neg fun hword => h hword span' operation ps rfl

/-- A token that is no name parts the calls before it from those behind it. -/
lemma callsOf_append_token : callsOf lines (ps ++ .token t :: qs) =
    callsOf lines ps ++ callsOf lines qs := by
  fun_induction callsOf lines ps with
  | case1 => rfl
  | case2 span span' operation ps ih => simp [callsOf, ih]
  | case3 span word span' operation ps hword ih => simpa [callsOf, hword] using ih
  | case4 p ps hp ih =>
    match p, ps with
    | .token u, ps => exact ih
    | .word span word, [] => rfl
    | .word span word, .token u :: ps => exact ih
    | .word span word, .word span' operation :: ps =>
      exact absurd rfl (hp span word span' operation ps rfl)

/-- A closing brace parts the calls before it from those behind it. -/
lemma callsAmong_append_closing : callsAmong lines n (ts ++ .character '}' :: us) =
    callsAmong lines n ts ++ callsAmong lines (n + byteLength (ts.flatMap Token.text) + 1) us := by
  unfold callsAmong
  rw [pieces_append_closing, List.filter_append, List.filter_cons_of_pos (by decide),
    callsOf_append_token]

end

/-! ### What is ahead of the grammar -/

/-- Where a name begins, the grammar can read one. -/
lemma Grammar.exists_ident {c : Cursor} {ch : Char} (hhead : c.rest.head? = some ch)
    (hstart : Token.isIdentStart ch = true) : ∃ name c', Ident name c c' := by
  obtain ⟨cs, hrest⟩ := List.head?_eq_some_iff.mp hhead
  have hread : Token.identifier? c.rest = some (ch :: cs.takeWhile Token.isIdentChar) := by
    rw [hrest, Token.identifier?, if_pos hstart]
  refine ⟨String.ofList (ch :: cs.takeWhile Token.isIdentChar),
    c.after (ch :: cs.takeWhile Token.isIdentChar), gives_identifier.mp ?_⟩
  exact Parser.gives_bind.mpr
    ⟨_, _, Parser.gives_token.mpr ⟨hread, rfl⟩, Parser.gives_pure.mpr ⟨rfl, rfl⟩⟩

namespace Cursor

variable {c c₁ c' : Cursor} {t : Token} {name : String}

/-- The pieces of the text ahead, without separators. -/
def ahead (c : Cursor) : List Piece :=
  (pieces c.offset (tokens c.rest)).filter fun p => !p.isSeparator

lemma nameRun_tokens (hc : c.Closed) (hend : WordEnd c) : nameRun (tokens c.rest) = [] := by
  by_cases hrest : c.rest = []
  · rw [tokens_of_nil hrest]
    rfl
  · obtain ⟨t, c₁, hreads⟩ := hc.exists_reads hrest
    rw [hreads.tokens_eq]
    cases t with
    | character ch =>
      have hch := hend ch hreads.here.head
      simp [nameRun, hch]
    | _ => rfl

lemma pieces_reads (h : c.Reads t c₁)
    (ht : ∀ ch, t = .character ch → Token.isIdentStart ch = false) :
    pieces c.offset (tokens c.rest) = .token t :: pieces c₁.offset (tokens c₁.rest) := by
  rw [h.tokens_eq, pieces_token ht, h.here.2]

lemma ahead_token (h : c.Reads t c₁) (ht : ∀ ch, t = .character ch → Token.isIdentStart ch = false)
    (hsep : (Piece.token t).isSeparator = false) : c.ahead = .token t :: c₁.ahead := by
  unfold ahead
  rw [pieces_reads h ht, List.filter_cons_of_pos (by simp [hsep])]

lemma ahead_separator (h : c.Reads t c₁) (hsep : (Piece.token t).isSeparator = true) :
    c.ahead = c₁.ahead := by
  have ht : ∀ ch, t = .character ch → Token.isIdentStart ch = false := by
    rintro ch rfl
    simp only [Piece.isSeparator, List.mem_cons, List.not_mem_nil, or_false,
      decide_eq_true_eq] at hsep
    rcases hsep with rfl | rfl | rfl | rfl <;> decide
  unfold ahead
  rw [pieces_reads h ht, List.filter_cons_of_neg (by simp [hsep])]

lemma ahead_ident (hc : c.Closed) (h : Ident name c c₁) :
    c.ahead = .word ⟨c.offset, c₁.offset⟩ name :: c₁.ahead := by
  have hc₁ := h.closed hc
  obtain ⟨hname, hstart, hmore, here, hend⟩ := h
  have hrun : ∀ x ∈ name.toList, x ≠ '"' ∧ x ≠ '/' := fun x hx => by
    have hx' : Token.isIdentChar x = true := by
      rw [hname] at hx
      rcases List.mem_cons.mp hx with rfl | hx
      · exact isIdentChar_of_start hstart
      · exact hmore x hx
    exact ⟨(isIdentChar_ne hx').1, (isIdentChar_ne hx').2.1⟩
  unfold ahead
  rw [(scans_run hc hrun here).tokens_eq, hname, pieces_word hstart hmore (nameRun_tokens hc₁ hend),
    ← hname, String.ofList_toList, ← here.2, List.filter_cons_of_pos rfl]

lemma ahead_gap (hc : c.Closed) (h : Gap c c') : c.ahead = c'.ahead := by
  induction h with
  | nothing => rfl
  | @blank c c₁ c' ch hch here more ih =>
    have hplain : ch ≠ '"' ∧ ch ≠ '/' := by rcases hch with rfl | rfl | rfl | rfl <;> decide
    have hreads := reads_character here hplain.1 (here.plain hplain.2)
    rw [ahead_separator hreads (by simpa [Piece.isSeparator] using hch), ih (hreads.closed hc)]
  | comment here more ih =>
    obtain ⟨t, ht, hspells⟩ := comment_iff.mp here
    have hreads := reads_comment hspells ht
    rw [ahead_separator hreads rfl, ih (hreads.closed hc)]

/-- No gap ends before a separator. -/
lemma isSeparator_of_gapEnd (hgap : GapEnd c) (h : c.Reads t c₁) :
    (Piece.token t).isSeparator = false := by
  obtain ⟨hcomment, -⟩ | ⟨text, -, s, rfl⟩ | ⟨text, -, -, s, rfl⟩ | ⟨ch, rfl, -, -, here⟩ :=
    h.spelled
  · obtain ⟨s, hs, hspells⟩ := comment_iff.mp hcomment
    have hgap' : s ++ Token.separators c₁.rest = [] := by
      rw [← Token.separators_comment (hspells.1 ▸ hs), ← hspells.1]
      exact hgap
    obtain ⟨-, -, line, hline, -⟩ := Token.comment?_eq_some.mp hs
    simp [hline] at hgap'
  · rfl
  · rfl
  · by_contra hsep
    have hblank : ch = ' ' ∨ ch = '\t' ∨ ch = '\r' ∨ ch = '\n' := by
      rw [Bool.not_eq_false] at hsep
      simpa [Piece.isSeparator] using hsep
    rw [GapEnd, here.1, List.singleton_append, Token.separators_blank hblank] at hgap
    cases hgap

/-- Where a gap ends, the grammar can read the name that is the next piece. -/
lemma exists_ident_of_ahead (hc : c.Closed) (hgap : GapEnd c) {span : Span} {ps : List Piece}
    (h : c.ahead = .word span name :: ps) : ∃ name c₁, Ident name c c₁ := by
  by_cases hrest : c.rest = []
  · simp [ahead, tokens_of_nil hrest, pieces] at h
  · obtain ⟨t, c₁, hreads⟩ := hc.exists_reads hrest
    by_contra hnone
    have ht : ∀ ch, t = .character ch → Token.isIdentStart ch = false := by
      rintro ch rfl
      by_contra hstart
      exact hnone (Grammar.exists_ident hreads.here.head (Bool.not_eq_false _ ▸ hstart))
    rw [ahead_token hreads ht (isSeparator_of_gapEnd hgap hreads)] at h
    cases h

end Cursor

/-! ### Calls that the grammar finds -/

namespace Grammar

open Contracts.Parser

variable {lines : Lines} {inner : Parser (List CallSite)} {c c' : Cursor} {calls : List CallSite}
  {name text : String} {t : Token} {u : Unit}

/-- A token in which no name begins holds no call. -/
lemma callsOf_ahead_reads (h : c.Reads t c')
    (ht : ∀ ch, t = .character ch → Token.isIdentStart ch = false) :
    callsOf lines c.ahead = callsOf lines c'.ahead := by
  cases hsep : (Piece.token t).isSeparator with
  | true => rw [Cursor.ahead_separator h hsep]
  | false => rw [Cursor.ahead_token h ht hsep, callsOf_token]

lemma callsOf_ahead_callSite {call : CallSite} (hc : c.Closed)
    (h : (callSite lines).Gives c call c') :
    callsOf lines c.ahead = call :: callsOf lines c'.ahead := by
  obtain ⟨name, c₁, c₂, hword, hgap, hname, rfl⟩ := gives_callSite.mp h
  have hletters : "call".toList = 'c' :: ['a', 'l', 'l'] := rfl
  have hcall : Ident "call" c c₁ :=
    .mk hletters (by decide) (List.all_eq_true.mp (by decide)) hword.here hword.whole
  have hc₁ := hcall.closed hc
  rw [Cursor.ahead_ident hc hcall, Cursor.ahead_gap hc₁ hgap,
    Cursor.ahead_ident (hgap.closed hc₁) hname, callsOf_call]

/-- A name that the grammar takes up for itself calls nothing. -/
lemma callsOf_ahead_ident (hc : c.Closed) (h : Ident name c c')
    (hfails : (callSite lines).Fails c) :
    callsOf lines c.ahead = callsOf lines c'.ahead := by
  rw [Cursor.ahead_ident hc h]
  refine callsOf_word ?_
  rintro rfl span' operation qs hahead
  -- with a name next to `call` the grammar would have read a call site here
  have hc' := h.closed hc
  obtain ⟨hgap, hend⟩ := gap_separators c'.rest c'.offset
  rw [Cursor.ahead_gap hc' hgap] at hahead
  obtain ⟨name, c₁, hname⟩ := Cursor.exists_ident_of_ahead (hgap.closed hc') hend hahead
  obtain ⟨-, -, -, here, whole⟩ := h
  exact (gives_callSite.mpr ⟨name, c', _, ⟨here, whole⟩, hgap, hname, rfl⟩).not_fails hfails

lemma callsOf_ahead_bodyItem (hc : c.Closed) (h : (bodyItem lines inner).Gives c calls c')
    (hinner : inner.Gives c calls c' →
      callsOf lines c.ahead = calls ++ callsOf lines c'.ahead) :
    callsOf lines c.ahead = calls ++ callsOf lines c'.ahead := by
  obtain ⟨call, hgives, rfl⟩ | ⟨hcall, hgives | ⟨-, ⟨text, hgives, rfl⟩ | ⟨hstring,
    ⟨u, hgives, rfl⟩ | ⟨hcomment, ⟨name, hgives, rfl⟩ | ⟨hname, u, hgives, rfl⟩⟩⟩⟩⟩ :=
    gives_bodyItem.mp h
  · exact callsOf_ahead_callSite hc hgives
  · exact hinner hgives
  · rcases spelled_docString hc hgives with here | here
    · exact callsOf_ahead_reads (Cursor.reads_docString here) nofun
    · exact callsOf_ahead_reads (hc.reads_literal here) nofun
  · obtain ⟨s, hs, hspells⟩ := comment_iff.mp (gives_comment.mp hgives)
    exact callsOf_ahead_reads (Cursor.reads_comment hspells hs) nofun
  · exact callsOf_ahead_ident hc (gives_identifier.mp hgives) hcall
  · obtain ⟨ch, here, -⟩ := gives_filler.mp hgives
    obtain ⟨hquote, plain⟩ := plain_of_fails hc hstring hcomment here.head
    refine callsOf_ahead_reads (Cursor.reads_character here hquote plain) ?_
    rintro _ ⟨⟩
    by_contra hstart
    obtain ⟨name, c₁, hident⟩ := exists_ident here.head (Bool.not_eq_false _ ▸ hstart)
    exact (gives_identifier.mpr hident).not_fails hname

lemma callsOf_ahead_bodyWithin {depth : Nat} (hc : c.Closed)
    (h : (bodyWithin lines depth).Gives c calls c') :
    callsOf lines c.ahead = calls ++ callsOf lines c'.ahead := by
  induction depth generalizing c calls c' with
  | zero => exact absurd h not_gives_missing
  | succ depth ih =>
    obtain ⟨c₁, parts, c₂, opening, hparts, closing, rfl⟩ :=
      (gives_bodyWithin_succ (consumes_bodyItem (consumes_bodyWithin depth))).mp h
    have hopening := reads_opening opening
    have hinside : callsOf lines c₁.ahead = parts.flatten ++ callsOf lines c₂.ahead := by
      have hc₁ := hopening.closed hc
      -- the items are gone through one by one, whatever stands around them
      clear h opening hopening closing
      induction hparts with
      | stop => rfl
      | round hitem _ ihParts =>
        have hpiece := spelled_bodyItem hc₁ hitem (spelled_bodyWithin hc₁)
        rw [callsOf_ahead_bodyItem hc₁ hitem (ih hc₁), ihParts (hpiece.closed hc₁),
          List.flatten_cons, List.append_assoc]
    rw [callsOf_ahead_reads hopening fun ch h => by cases h; decide, hinside,
      callsOf_ahead_reads (reads_closing closing) fun ch h => by cases h; decide]

/-- The calls of a body are those of the second reading, since the text behind the body has the same
calls in both. -/
lemma calls_eq {inside : List Token} (hc : c.Closed) (h : (body lines).Gives c calls c')
    (hreads : c.ReadsAll (.character '{' :: (inside ++ [.character '}'])) c') :
    calls = callsAmong lines (c.offset + 1) inside := by
  have htokens : tokens c.rest =
      .character '{' :: (inside ++ .character '}' :: tokens c'.rest) := by
    simpa using (hreads.scans hc).tokens_eq
  have hoffset : c'.offset = c.offset + 1 + byteLength (inside.flatMap Token.text) + 1 := by
    have hbraces : byteLength ['{'] = 1 ∧ byteLength ['}'] = 1 := by decide
    rw [hreads.spells.2]
    simp only [List.flatMap_cons, List.flatMap_append, List.flatMap_nil, List.append_nil,
      byteLength_append, Token.text, hbraces]
    omega
  have hread : callsOf lines c.ahead = calls ++ callsOf lines c'.ahead :=
    callsOf_ahead_bodyWithin hc h
  have hsecond : callsOf lines c.ahead =
      callsAmong lines (c.offset + 1) inside ++ callsOf lines c'.ahead := by
    have hopening : callsOf lines c.ahead = callsAmong lines (c.offset + 1)
        (inside ++ .character '}' :: tokens c'.rest) := by
      unfold Cursor.ahead
      rw [htokens, pieces_token fun ch h => by cases h; decide, List.filter_cons_of_pos (by decide)]
      rfl
    rw [hopening, callsAmong_append_closing, ← hoffset]
    rfl
  exact List.append_cancel_right (hread.symm.trans hsecond)

lemma gives_body_iff (hc : c.Closed) : (body lines).Gives c calls c' ↔
    ∃ inside, c.ReadsAll (.character '{' :: (inside ++ [.character '}'])) c' ∧ Enclosed inside ∧
      calls = callsAmong lines (c.offset + 1) inside := by
  constructor
  · intro h
    obtain ⟨inside, hreads, henclosed⟩ := (body_iff_enclosed hc).mp (spelled_body hc h)
    exact ⟨inside, hreads, henclosed, calls_eq hc h hreads⟩
  · rintro ⟨inside, hreads, henclosed, rfl⟩
    have hbody := (body_iff_enclosed hc).mpr ⟨inside, hreads, henclosed⟩
    obtain ⟨calls, h⟩ : ∃ calls, (body lines).Gives c calls c' := exists_gives_body hbody
    rwa [calls_eq hc h hreads] at h

end Grammar

/-! ### Bodies in a text -/

/-- The place behind the first tokens of a text. -/
def Cursor.behind (text : List Char) (before : List Token) : Cursor :=
  Cursor.after ⟨text, 0⟩ (before.flatMap Token.text)

/-- **Bodies and their calls.** From an opening brace that is a token of a text, the grammar reads a
body exactly if some tokens behind the brace are enclosed and a closing brace follows them. The body
ends with that brace, and its calls are those of the second reading of what is enclosed. -/
theorem body_reads_iff (text : String) (before after : List Token)
    (hclosed : openString? text.toList = none)
    (htokens : tokens text.toList = before ++ .character '{' :: after)
    (calls : List CallSite) (c' : Cursor) :
    (Grammar.body (Lines.ofText text.toList)).Gives (Cursor.behind text.toList before) calls c' ↔
      ∃ inside behind, after = inside ++ .character '}' :: behind ∧ Enclosed inside ∧
        calls = callsAmong (Lines.ofText text.toList)
          (byteLength (before.flatMap Token.text) + 1) inside ∧
        c' = Cursor.behind text.toList
          (before ++ .character '{' :: (inside ++ [.character '}'])) := by
  have hc₀ : Cursor.Closed ⟨text.toList, 0⟩ := hclosed
  obtain ⟨c, hbefore, hc, hafter⟩ := hc₀.exists_readsAll htokens
  have hbehind : ∀ {ts c₁}, c.ReadsAll ts c₁ → c₁ = Cursor.behind text.toList (before ++ ts) :=
    fun hts => (Cursor.spells_iff.mp (Cursor.ReadsAll.append_iff.mpr ⟨c, hbefore, hts⟩).spells).2
  have hstart : c = Cursor.behind text.toList before := by simpa using hbehind (.nil c)
  have hoffset : c.offset = byteLength (before.flatMap Token.text) := by
    simp [hstart, Cursor.behind, Cursor.after]
  rw [← hstart, Grammar.gives_body_iff hc, hoffset]
  constructor
  · rintro ⟨inside, hreads, henclosed, hcalls⟩
    refine ⟨inside, tokens c'.rest, ?_, henclosed, hcalls, hbehind hreads⟩
    have hspelled := (hreads.scans hc).tokens_eq
    rw [hafter] at hspelled
    simpa using hspelled
  · rintro ⟨inside, behind, rfl, henclosed, hcalls, rfl⟩
    have hspelled : tokens c.rest = .character '{' :: (inside ++ [.character '}']) ++ behind := by
      simpa using hafter
    obtain ⟨c', hreads, -⟩ := hc.exists_readsAll hspelled
    exact ⟨inside, hbehind hreads ▸ hreads, henclosed, hcalls⟩

/-- A body with calls at two depths, and with braces and calls in a string and in comments. -/
def callingText : String :=
  "map Get \x7b // call No \x7d\n  call\tOne(x = \"call No\") \x7b call // \x7b\n" ++
    "    Two \x7d \x7d\n"

theorem body_reads_calls : (Grammar.body (Lines.ofText callingText.toList)).Gives
    (Cursor.behind callingText.toList ("map Get ".toList.map .character))
    [⟨"One", ⟨25, 33⟩, ⟨2, 3⟩, ⟨2, 11⟩⟩, ⟨"Two", ⟨51, 68⟩, ⟨2, 29⟩, ⟨3, 8⟩⟩] ⟨['\n'], 72⟩ := by
  have htokens : tokens callingText.toList = "map Get ".toList.map .character ++
      .character '{' :: (tokens callingText.toList).drop 9 := by decide +kernel
  refine (body_reads_iff callingText _ _ (by decide +kernel) htokens _ _).mpr
    ⟨((tokens callingText.toList).drop 9).take 40, [.character '\n'], ?_, ?_, ?_, ?_⟩
  all_goals decide +kernel

end Contracts
