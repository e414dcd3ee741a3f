import ScriptLayout.Proofs.Branch.Grammar
import ScriptLayout.Proofs.Loop.Token

/-!
# The placing of a branch

Where the statements of a program stand. A statement that is the body of a header opens a
scope of its own, and the end of a statement closes all the scopes of that kind around it
(`spec`), whether or not one of the headers is an if with an else to come. So an else is
placed within the blocks around it only, and the if that it belongs to is placed within the
same scopes if and only if it is not the body of a header itself (`Starts`).

The proof is by induction on phrases, and on the way to a phrase in a program
(`Contains.exists_run`).
-/

namespace ScriptLayout.Branch

open Layout Loop
open Program (Operand word mark braceOpen braceClose Resumes resumes_closeBrace functionDraft_eq
  labelDraft_eq)

variable {style : Style} {scopes : List Scope} {st st' : State} {rest : List Lexeme}
  {loose : Bool}

/-! ### Where statements begin and end -/

/-- No scope is the body of a do. -/
structure Undone (scopes : List Scope) (st : State) : Prop where
  noDo : ∀ scope ∈ scopes, scope.isDo = false
  closed : st.scopes.closed.isDo = false

/-- The next token begins a statement, and no do has come before it. -/
structure Ready (scopes : List Scope) (st : State) : Prop
    extends AtStatement scopes st, Undone scopes st where
  signals : signals st = false

/-- The next token is a brace that opens a block, and no do has come before it. It may stand on
    the line of a header. -/
structure AtBlock (scopes : List Scope) (st : State) : Prop
    extends AtBrace scopes st, Undone scopes st where
  braceScope : (Draft.ofState st).state.line.braceScope = .block

/-- Statements begin with the next token: on a line of their own, and within blocks only. -/
structure Fresh (scopes : List Scope) (st : State) : Prop extends Ready scopes st where
  settled : scopes.dropWhile Scope.isSingle = scopes
  line : st.seam ≠ .joined
  afterStatement : st.previous ≠ .closeParen

theorem Undone.outermost (h : Undone scopes st) {scope : Scope} (hs : scope.isDo = false) :
    ((outermost scopes).getD scope).isDo = false := by
  cases ho : Loop.outermost scopes with
  | none => exact hs
  | some outer =>
    have hmem := List.mem_of_getLast? ho
    exact h.noDo outer ((List.takeWhile_prefix _).subset hmem)

theorem Ready.atBlock (h : Ready scopes st) : AtBlock scopes st := by
  refine ⟨h.toAtBrace, h.toUndone, ?_⟩
  rw [Line.braceScope, h.doHeader, h.caseHeader]
  rfl

theorem Ready.doClosedNext_eq (h : Ready scopes st) : st.doClosedNext = false := by
  have hruled := h.ruled
  simp only [Ruled, List.mem_cons, List.not_mem_nil, or_false] at hruled
  rcases hruled with hs | hs | hs
  · have hnext := h.doClosedNext
    rw [Draft.ofState, hs] at hnext
    exact hnext
  · have hnext := h.doClosedNext
    rw [ofState_of_joined hs] at hnext
    exact hnext
  · rw [← signals_of_broken hs, h.signals]

/-- Statements may begin at the beginning of a source. -/
theorem fresh_start : Fresh [] {} :=
  ⟨⟨atStatement_start, ⟨fun _ h => absurd h List.not_mem_nil, rfl⟩, rfl⟩, rfl, by simp, by simp⟩

theorem Undone.dropWhile (h : ∀ scope ∈ scopes, scope.isDo = false) :
    ∀ scope ∈ scopes.dropWhile Scope.isSingle, scope.isDo = false :=
  fun scope hs => h scope ((List.dropWhile_suffix _).subset hs)

/-- A semicolon ends a statement. -/
theorem fresh_ended (h : AtBrace scopes st) (hu : Undone scopes st) :
    Fresh (scopes.dropWhile Scope.isSingle) (ended st) := by
  have hclosed := hu.outermost hu.closed
  refine ⟨⟨h.atStatement_ended, ⟨Undone.dropWhile hu.noDo, ?_⟩, ?_⟩,
    List.dropWhile_idempotent _ _, (by decide : Seam.broken ≠ .joined),
    (by decide : Kind.semicolon ≠ .closeParen)⟩
  · rw [h.closed_ended, hclosed]
  · rw [h.signals_ended, hclosed]

/-- So does the brace that closes a block. -/
theorem Ready.run_closeBrace (style : Style) {scope : Scope} (h : Ready (scope :: scopes) st)
    (hs : scope.isSingle = false) (hr : Resumes rest) : ∃ st',
      Run style (fun p => p.Keeps) st [mark .closeBrace braceClose] rest st' ∧
      Fresh (scopes.dropWhile Scope.isSingle) st' := by
  obtain ⟨st', hrun, hat, hsignals, hclosed, hbroken⟩ :=
    h.toAtStatement.run_closeBrace style hs hr
  have hu : Undone scopes st := ⟨fun s hs => h.noDo s (.tail _ hs), h.closed⟩
  have hlast := hu.outermost (h.noDo scope List.mem_cons_self)
  rw [hlast, h.doClosedNext_eq, Bool.or_false] at hsignals
  refine ⟨st', hrun, ⟨⟨hat, ⟨Undone.dropWhile hu.noDo, hclosed ▸ hlast⟩, hsignals⟩,
    List.dropWhile_idempotent _ _, ?_, ?_⟩⟩
  · rw [hbroken hsignals]
    decide
  · rw [hrun.previous_eq]
    exact (by decide : Kind.closeBrace ≠ .closeParen)

/-! ### How phrases begin -/

theorem statement_begins (s : Phrase (.statement loose)) :
    BeginsStatement s.isBlock s.lexemes := by
  cases s with
  | simple e => exact ⟨_, _, rfl, e.begins.1⟩
  | block => exact ⟨_, _, rfl, rfl⟩
  | headed text h =>
    have hall : ∀ w ∈ headerWords, w ∉ ["catch", "finally", ":"] := by decide
    exact ⟨_, _, rfl, List.mem_cons_self, hall text h⟩
  | branch => exact ⟨_, _, rfl, List.mem_cons_self, by decide⟩

/-- The word that follows an else tells whether it is an if. -/
theorem head?_statement (s : Phrase (.statement loose)) (rest : List Lexeme) :
    ((s.lexemes ++ rest).head?.map Lexeme.text = some "if") ↔ s.isIf := by
  cases s with
  | simple e => simpa [Phrase.lexemes, Phrase.isIf] using e.begins.2
  | block => simp [Phrase.lexemes, Phrase.isIf, Program.inBraces, mark, braceOpen]
  | headed text => simp [Phrase.lexemes, Phrase.isIf, word]
  | branch => simp [Phrase.lexemes, Phrase.isIf, word]

theorem resumes_statements (stmts : Phrase .statements) (hr : Resumes rest) :
    Resumes (stmts.lexemes ++ rest) := by
  cases stmts with
  | none => exact hr
  | more first stmts =>
    rw [Phrase.lexemes, List.append_assoc]
    exact (statement_begins first).resumes _

theorem resumes_else : Resumes (word "else" :: rest) := by
  rintro _ ⟨⟩
  decide

/-! ### Specifications -/

/-- The state is one in which the phrase may begin. An if stands within a single statement
    only if it comes after a parenthesis. -/
def Starts : {k : Form} → Phrase k → List Scope → State → Prop
  | .statement _, p, scopes, st =>
    (if p.isBlock then AtBlock scopes st else Ready scopes st) ∧
      (p.isIf → (scopes.dropWhile Scope.isSingle = scopes ↔ st.previous ≠ .closeParen))
  | .statements, _, scopes, st => Fresh scopes st

theorem Fresh.starts (h : Fresh scopes st) (s : Phrase (.statement loose)) :
    Starts s scopes st := by
  refine ⟨?_, fun _ => iff_of_true h.settled h.afterStatement⟩
  split
  · exact h.atBlock
  · exact h.toReady

/-- The specification of a phrase: with its end, the single statements around it end. -/
def Spec (style : Style) {k : Form} (p : Phrase k) : Prop :=
  ∀ {scopes st rest}, Starts p scopes st → Resumes rest →
    ∃ st', Run style (fun p => p.Keeps) st p.lexemes rest st' ∧
      Fresh (scopes.dropWhile Scope.isSingle) st'

/-! ### Headers -/

/-- The body of a header is not settled within the blocks around it. -/
theorem dropWhile_single_ne (scopes : List Scope) :
    (Scope.single :: scopes).dropWhile Scope.isSingle ≠ .single :: scopes := by
  intro hs
  have hle := (List.dropWhile_suffix (l := scopes) Scope.isSingle).length_le
  rw [List.dropWhile_cons_of_pos rfl] at hs
  rw [hs, List.length_cons] at hle
  omega

/-- A single statement begins on the next line. -/
theorem AtBlock.ready_push (h : AtBlock scopes st) (hs : st.seam = .joined)
    (hp : st.previous ≠ .dot) : Ready (.single :: scopes) ((st.push .single).join .broken) := by
  refine ⟨h.toAtBrace.push rfl hp, ⟨List.forall_mem_cons.2 ⟨rfl, h.noDo⟩, h.closed⟩, ?_⟩
  have hnext := h.doClosedNext
  rw [ofState_of_joined hs] at hnext
  exact (signals_of_broken rfl).trans hnext

/-- The header of a statement opens a single statement, unless it is a block. -/
theorem Ready.run_header (style : Style) {text : String} (h : Ready scopes st)
    (ht : text ∈ headerWords) (c : Condition) (body : Phrase (.statement loose))
    (rest : List Lexeme) : ∃ scopes' st',
      Run style (fun p => p.Keeps) st (word text :: c.inParens) (body.lexemes ++ rest) st' ∧
      Starts body scopes' st' ∧
      scopes'.dropWhile Scope.isSingle = scopes.dropWhile Scope.isSingle ∧
      (body.isBlock = false → st'.seam ≠ .joined) := by
  obtain ⟨st₁, st₂, hword, hrun, hseam, hscopes, hprevious, hbrace, hblock⟩ :=
    h.toAtStatement.run_headerWord style ht (by rw [h.signals]; rfl) c (body.lexemes ++ rest)
  have hall := (hword.mono fun _ hp => hp.1).append (hrun.mono fun _ hp => hp.keeps)
  have hat : AtBlock scopes st₂ := ⟨hbrace, ⟨h.noDo, hscopes ▸ h.closed⟩, hblock⟩
  rw [((statement_begins body).nextIn rest).2.1] at hall
  cases hb : body.isBlock with
  | true =>
    rw [hb, if_pos rfl] at hall
    refine ⟨scopes, st₂, hall, ⟨by rwa [if_pos hb], fun hif => ?_⟩, rfl, nofun⟩
    cases body <;> simp [Phrase.isBlock, Phrase.isIf] at hb hif
  | false =>
    rw [hb, if_neg Bool.false_ne_true] at hall
    have hpush := hat.ready_push hseam (by rw [hprevious]; decide)
    refine ⟨.single :: scopes, _, hall, ⟨by rwa [if_neg (by simp [hb])], fun _ => ?_⟩, rfl,
      fun _ => (by decide : Seam.broken ≠ .joined)⟩
    exact iff_of_false (dropWhile_single_ne scopes) (not_not_intro hprevious)

/-! ### Alternatives -/

theorem Ready.atBlock_afterWord (h : Ready scopes st) {line : Line}
    (hc : line.caseHeader = false) (hd : line.doHeader = false) :
    AtBlock scopes (afterWord line st) := by
  refine ⟨h.toAtStatement.atBrace_afterWord hc, ⟨h.noDo, ?_⟩, ?_⟩
  · rw [scopes_afterWord]
    exact h.closed
  · rw [ofState_of_joined (seam_afterWord line st)]
    simp [Line.braceScope, afterWord, hc, hd]

/-- An else before an if opens nothing, and the line goes on. -/
theorem Ready.run_elseIf (style : Style) (h : Ready scopes st) (rest : List Lexeme)
    (hn : rest.head?.map Lexeme.text = some "if") : ∃ st',
      Run style (fun p => p.Keeps) st [word "else"] rest st' ∧ Ready scopes st' ∧
      st'.seam = .joined ∧ st'.previous = .symbol := by
  have hfun : "else" ≠ "function" := by decide
  have hlabel : isLabel "else" = false := by decide
  have hopens : opensBlock "else" rest.head? = false := by
    rw [opensBlock, hn]
    decide
  have hr : rule style st.seam (word "else") rest.head? (Draft.ofState st) =
      ((Draft.ofState st).spaceUnlessAfter [.openParen, .openBracket, .unaryPrefix, .dot],
        (Draft.ofState st).state) := by
    rw [rule, word]
    dsimp only
    rw [symbol_eq, functionDraft_eq hfun, labelDraft_eq hlabel]
    simp [hopens, hlabel]
  have hseam := seam_afterWord (Draft.ofState st).state.line st
  have hat := h.atBlock_afterWord h.caseHeader h.doHeader
  refine ⟨afterWord (Draft.ofState st).state.line st,
    run_of_rule h.ruled hr (Draft.Keeps.spaceUnlessAfter (.ofState st)),
    ⟨hat.toAtBrace.atStatement hseam (by decide : Kind.symbol ≠ .dot) h.blockHeader h.doHeader
      h.parens, hat.toUndone, ?_⟩, hseam, rfl⟩
  rw [Loop.signals, ofState_of_joined hseam]
  exact h.signals

theorem afterBlockWord_else {next : Option Lexeme} (hd : st.line.doHeader = false) :
    afterBlockWord "else" next st =
      if nextIn next [.openBrace, .openParen] then
        { st with line := { st.line with blockHeader := true } }
      else (st.push .single).join .broken := by
  simp [afterBlockWord, hd]

/-- An else leaves a state in which its alternative may begin. It opens a single statement,
    unless the alternative is a block or an if. -/
theorem Fresh.run_else (style : Style) (h : Fresh scopes st)
    (alternative : Phrase (.statement loose)) (rest : List Lexeme) : ∃ scopes' st',
      Run style (fun p => p.Keeps) st [word "else"] (alternative.lexemes ++ rest) st' ∧
      Starts alternative scopes' st' ∧ scopes'.dropWhile Scope.isSingle = scopes ∧
      (alternative.isBlock = false → st'.seam ≠ .joined ∨
        scopes' = scopes ∧ st'.seam = .joined ∧ st'.previous = .symbol) := by
  cases hif : alternative.isIf with
  | true =>
    obtain ⟨st', hrun, hat, hseam, hprevious⟩ := h.run_elseIf style (alternative.lexemes ++ rest)
      ((head?_statement alternative rest).2 hif)
    have hnot : alternative.isBlock = false := by
      cases alternative <;> simp [Phrase.isBlock, Phrase.isIf] at hif ⊢
    refine ⟨scopes, st', hrun, ⟨by rwa [if_neg (by simp [hnot])], fun _ => ?_⟩, h.settled,
      fun _ => .inr ⟨rfl, hseam, hprevious⟩⟩
    exact iff_of_true h.settled (by rw [hprevious]; decide)
  | false =>
    have hopens : opensBlock "else" (alternative.lexemes ++ rest).head? := by
      have htext := bne_iff_ne.2 (mt (head?_statement alternative rest).1 (by rw [hif]; decide))
      rw [opensBlock, htext]
      decide
    have hword := (h.run_opening style (by decide) (by decide) _ hopens).mono
      (Q := fun p => p.Keeps) fun _ hp => hp.1
    rw [afterBlockWord_else h.doHeader, ((statement_begins alternative).nextIn rest).1] at hword
    cases hb : alternative.isBlock with
    | true =>
      rw [hb, if_pos rfl] at hword
      let line : Line := { (Draft.ofState st).state.line with blockHeader := true }
      have hat : AtBlock scopes (afterWord line st) := h.atBlock_afterWord h.caseHeader h.doHeader
      exact ⟨scopes, afterWord line st, hword, ⟨by rwa [if_pos hb], by simp [hif]⟩, h.settled,
        fun hnot => absurd hnot (by decide)⟩
    | false =>
      rw [hb, if_neg Bool.false_ne_true] at hword
      have hat := (h.atBlock_afterWord h.caseHeader h.doHeader).ready_push
        (seam_afterWord (Draft.ofState st).state.line st) (by decide : Kind.symbol ≠ .dot)
      exact ⟨.single :: scopes, _, hword, ⟨by rwa [if_neg (by simp [hb])], by simp [hif]⟩,
        h.settled, fun _ => .inl (by decide : Seam.broken ≠ .joined)⟩

/-! ### All phrases -/

theorem Spec.simple (e : Operand) : Spec style (.simple e : Phrase (.statement loose)) := by
  intro scopes st rest ⟨hst, _⟩ hr
  have hst : Ready scopes st := hst
  have hseam : ({ (Draft.ofState st).state with previous := e.kind } : State).seam = .joined :=
    seam_ofState st
  have hscopes : ({ (Draft.ofState st).state with previous := e.kind } : State).scopes =
      st.scopes := scopes_ofState st
  have hline := hst.toAtBrace.of_joined hseam hscopes hst.caseHeader hst.doClosedNext
  have hoperand := hst.run_operand style e (mark .semicolon ";" :: rest)
  have hsemicolon := run_semicolon style hline.ruled
    (by rw [ofState_of_joined hseam]; exact hst.parens) (hr.nextIn_eq_false (by decide))
  exact ⟨_, hoperand.append (hsemicolon.mono fun p hp => (Draft.Keeps.ofState _).of_gap_eq hp.1),
    fresh_ended hline ⟨hst.noDo, hscopes ▸ hst.closed⟩⟩

/-- The statements of a block begin after its brace. -/
theorem AtBlock.run_openBrace (h : AtBlock scopes st) (hstyle : style.openBraceOnNewLine = false)
    (first : Phrase (.statement true)) (stmts : Phrase .statements) (rest : List Lexeme) : ∃ st',
      Run style (fun p => p.Keeps) st [mark .openBrace braceOpen]
        ((Phrase.more first stmts).lexemes ++ rest) st' ∧
      Fresh (.block :: scopes) st' := by
  have hn : nextIn ((Phrase.more first stmts).lexemes ++ rest).head? [.closeBrace] = false := by
    rw [Phrase.lexemes, List.append_assoc]
    exact ((statement_begins first).nextIn _).2.2
  obtain ⟨st', hrun, hat, hbroken, hnext, hclosed⟩ := h.toAtBrace.run_openBrace hstyle hn
  rw [h.braceScope] at hat
  refine ⟨st', hrun, ⟨hat, ⟨List.forall_mem_cons.2 ⟨rfl, h.noDo⟩, hclosed ▸ h.closed⟩, ?_⟩,
    List.dropWhile_cons_of_neg (by decide), ?_, ?_⟩
  · rw [signals_of_broken hbroken, hnext]
  · rw [hbroken]
    decide
  · rw [hrun.previous_eq]
    exact (by decide : Kind.openBrace ≠ .closeParen)

theorem Spec.block (hstyle : style.openBraceOnNewLine = false) {first : Phrase (.statement true)}
    {stmts : Phrase .statements} (hss : Spec style (.more first stmts)) :
    Spec style (.block first stmts : Phrase (.statement loose)) := by
  intro scopes st rest ⟨hst, _⟩ hr
  have hst : AtBlock scopes st := hst
  obtain ⟨st₁, hopen, hfresh⟩ :=
    hst.run_openBrace hstyle first stmts (mark .closeBrace braceClose :: rest)
  obtain ⟨st₂, hbody, hend⟩ := hss hfresh resumes_closeBrace
  rw [hfresh.settled] at hend
  obtain ⟨st', hclose, hat⟩ := hend.toReady.run_closeBrace style rfl hr
  exact ⟨st', (hopen.append hbody).append hclose, hat⟩

theorem Spec.headed {text : String} (h : text ∈ headerWords) (hl : text = "if" → loose)
    (c : Condition) {body : Phrase (.statement loose)} (hb : Spec style body) :
    Spec style (.headed text h hl c body) := by
  intro scopes st rest ⟨hst, _⟩ hr
  have hst : Ready scopes st := hst
  obtain ⟨scopes', st₁, hheader, hstarts, hdrop, -⟩ := hst.run_header style h c body rest
  obtain ⟨st', hbody, hat⟩ := hb hstarts hr
  exact ⟨st', hheader.append hbody, hdrop ▸ hat⟩

/-- An else is placed within the blocks around its branch only. -/
theorem Ready.run_branch (style : Style) (h : Ready scopes st) (c : Condition)
    {body : Phrase (.statement false)} (hb : Spec style body) (rest : List Lexeme) : ∃ st',
      Run style (fun p => p.Keeps) st (word "if" :: c.inParens ++ body.lexemes)
        (word "else" :: rest) st' ∧
      Fresh (scopes.dropWhile Scope.isSingle) st' := by
  obtain ⟨scopes', st₁, hheader, hstarts, hdrop, -⟩ := h.run_header style
    (show "if" ∈ headerWords by decide) c body (word "else" :: rest)
  obtain ⟨st', hbody, hat⟩ := hb hstarts resumes_else
  exact ⟨st', hheader.append hbody, hdrop ▸ hat⟩

theorem Spec.branch (c : Condition) {body : Phrase (.statement false)}
    {alternative : Phrase (.statement loose)} (hb : Spec style body)
    (ha : Spec style alternative) : Spec style (.branch c body alternative) := by
  intro scopes st rest ⟨hst, _⟩ hr
  have hst : Ready scopes st := hst
  obtain ⟨st₁, hbranch, hfresh⟩ := hst.run_branch style c hb (alternative.lexemes ++ rest)
  obtain ⟨scopes', st₂, helse, hstarts, hdrop, -⟩ := hfresh.run_else style alternative rest
  obtain ⟨st', halternative, hat⟩ := ha hstarts hr
  refine ⟨st', ?_, hdrop ▸ hat⟩
  have hall := hbranch.append (helse.append halternative)
  simpa [Phrase.lexemes] using hall

theorem Spec.none : Spec style .none := by
  intro scopes st rest hst _
  have hst : Fresh scopes st := hst
  exact ⟨st, .nil _ _, hst.settled.symm ▸ hst⟩

theorem Spec.more {first : Phrase (.statement true)} {stmts : Phrase .statements}
    (hf : Spec style first) (hss : Spec style stmts) : Spec style (.more first stmts) := by
  intro scopes st rest hst hr
  have hst : Fresh scopes st := hst
  obtain ⟨st₁, hfirst, hfresh⟩ := hf (hst.starts first) (resumes_statements stmts hr)
  rw [hst.settled] at hfresh
  obtain ⟨st', hrest, hat⟩ := hss hfresh hr
  exact ⟨st', hfirst.append hrest, hat⟩

/-- Every phrase is placed as specified, where braces stay on the line. -/
theorem spec (hstyle : style.openBraceOnNewLine = false) {k : Form} (p : Phrase k) :
    Spec style p := by
  induction p with
  | simple e => exact Spec.simple e
  | block first rest hf hss => exact Spec.block hstyle (Spec.more hf hss)
  | headed text h hl c body hb => exact Spec.headed h hl c hb
  | branch c body alternative hb ha => exact Spec.branch c hb ha
  | none => exact Spec.none
  | more first rest hf hss => exact Spec.more hf hss

/-! ### Phrases within a program -/

/-- From the state `st₀`, the lexemes `front` before `rest` lead to the beginning of a line, or
    to an else that has begun the line within the same scopes. -/
def LeadsOn (style : Style) (st₀ : State) (front rest : List Lexeme) (scopes : List Scope)
    (st : State) : Prop :=
  st.seam ≠ .joined ∨ st.seam = .joined ∧ st.previous = .symbol ∧
    ∃ front' st₁, front = front' ++ [word "else"] ∧
      Run style (fun p => p.Keeps) st₀ front' (word "else" :: rest) st₁ ∧ Fresh scopes st₁

theorem LeadsOn.append {st₀ st₁ : State} {ts front : List Lexeme}
    (hrun : Run style (fun p => p.Keeps) st₀ ts (front ++ rest) st₁)
    (h : LeadsOn style st₁ front rest scopes st) :
    LeadsOn style st₀ (ts ++ front) rest scopes st := by
  rcases h with h | ⟨hseam, hprevious, front', st₂, rfl, hrun', hfresh⟩
  · exact .inl h
  · rw [List.append_assoc] at hrun
    exact .inr ⟨hseam, hprevious, ts ++ front', st₂, (List.append_assoc ..).symm,
      hrun.append hrun', hfresh⟩

/-- Every part of a phrase is placed where it may begin, and before what may come after it. -/
theorem Part.exists_run (hstyle : style.openBraceOnNewLine = false) {k k' : Form} {r : Phrase k}
    {q : Phrase k'} {front back : List Lexeme} (h : Part r q front back)
    (hq : Starts q scopes st) (hr : Resumes rest) : ∃ scopes' st',
      Run style (fun p => p.Keeps) st front (r.lexemes ++ (back ++ rest)) st' ∧
      Starts r scopes' st' ∧ Resumes (back ++ rest) ∧
      (r.isBlock = false → LeadsOn style st front (r.lexemes ++ (back ++ rest)) scopes' st') := by
  cases h with
  | @first s stmts =>
    have hst : Fresh scopes st := hq
    exact ⟨scopes, st, .nil _ _, hst.starts s, resumes_statements stmts hr,
      fun _ => .inl hst.line⟩
  | @rest s stmts =>
    have hst : Fresh scopes st := hq
    obtain ⟨st', hrun, hat⟩ := spec hstyle s (hst.starts s) (resumes_statements stmts hr)
    rw [hst.settled] at hat
    exact ⟨scopes, st', hrun, hat, hr, fun _ => .inl hat.line⟩
  | @block loose s stmts =>
    have hst : AtBlock scopes st := hq.1
    obtain ⟨st', hopen, hat⟩ :=
      hst.run_openBrace hstyle s stmts (mark .closeBrace braceClose :: rest)
    exact ⟨_, st', hopen, hat, resumes_closeBrace, fun _ => .inl hat.line⟩
  | @headed loose text h hl c body =>
    have hst : Ready scopes st := hq.1
    obtain ⟨scopes', st', hrun, hstarts, -, hline⟩ := hst.run_header style h c body rest
    exact ⟨scopes', st', hrun, hstarts, hr, fun hb => .inl (hline hb)⟩
  | @body loose c body alternative =>
    have hst : Ready scopes st := hq.1
    obtain ⟨scopes', st', hrun, hstarts, -, hline⟩ := hst.run_header style
      (show "if" ∈ headerWords by decide) c body (word "else" :: (alternative.lexemes ++ rest))
    exact ⟨scopes', st', hrun, hstarts, resumes_else, fun hb => .inl (hline hb)⟩
  | @alternative loose c body alternative =>
    have hst : Ready scopes st := hq.1
    obtain ⟨st₁, hbranch, hfresh⟩ :=
      hst.run_branch style c (spec hstyle body) (alternative.lexemes ++ rest)
    obtain ⟨scopes', st', helse, hstarts, -, hline⟩ := hfresh.run_else style alternative rest
    refine ⟨scopes', st', hbranch.append helse, hstarts, hr, fun hb => ?_⟩
    refine (hline hb).imp_right fun ⟨hscopes, hseam, hprevious⟩ => ?_
    exact ⟨hseam, hprevious, _, st₁, rfl, hbranch, hscopes ▸ hfresh⟩

/-- So is every phrase in a program. -/
theorem Contains.exists_run (hstyle : style.openBraceOnNewLine = false) {k : Form}
    {p : Phrase .statements} {q : Phrase k} {front back : List Lexeme}
    (h : Contains p q front back) : ∃ scopes st,
      Run style (fun p => p.Keeps) {} front (q.lexemes ++ back) st ∧ Starts q scopes st ∧
      Resumes back ∧
      (q.isBlock = false → LeadsOn style {} front (q.lexemes ++ back) scopes st) := by
  induction h with
  | self => exact ⟨[], {}, .nil _ _, fresh_start, resumes_nil, fun _ => .inl fresh_start.line⟩
  | part hq hpart ih =>
    obtain ⟨scopes, st, hrun, hstarts, hresumes, -⟩ := ih
    obtain ⟨scopes', st', hrun', hstarts', hresumes', hline⟩ :=
      hpart.exists_run hstyle hstarts hresumes
    rw [hpart.lexemes_eq, List.append_assoc, List.append_assoc] at hrun
    exact ⟨scopes', st', hrun.append hrun', hstarts', hresumes', fun hb => (hline hb).append hrun⟩

/-- A branch in a program: the scopes around its if, and those around its else. -/
theorem Contains.exists_run_branch (hstyle : style.openBraceOnNewLine = false)
    {p : Phrase .statements} {c : Condition} {body : Phrase (.statement false)}
    {alternative : Phrase (.statement loose)} {front back : List Lexeme}
    (h : Contains p (.branch c body alternative) front back) : ∃ scopes st st',
      Run style (fun p => p.Keeps) {} front (word "if" ::
        (c.inParens ++ body.lexemes ++ word "else" :: (alternative.lexemes ++ back))) st ∧
      Ready scopes st ∧
      LeadsOn style {} front (word "if" ::
        (c.inParens ++ body.lexemes ++ word "else" :: (alternative.lexemes ++ back))) scopes st ∧
      (scopes.dropWhile Scope.isSingle = scopes ↔ st.previous ≠ .closeParen) ∧
      Run style (fun p => p.Keeps) {} (front ++ (word "if" :: c.inParens ++ body.lexemes))
        (word "else" :: (alternative.lexemes ++ back)) st' ∧
      Fresh (scopes.dropWhile Scope.isSingle) st' := by
  obtain ⟨scopes, st, hrun, ⟨hready, hsettled⟩, -, hline⟩ := h.exists_run hstyle
  have hlexemes : (Phrase.branch c body alternative).lexemes ++ back = word "if" ::
      (c.inParens ++ body.lexemes ++ word "else" :: (alternative.lexemes ++ back)) := by
    simp [Phrase.lexemes]
  rw [hlexemes] at hrun hline
  have hready : Ready scopes st := hready
  obtain ⟨st', hbranch, hfresh⟩ :=
    hready.run_branch style c (spec hstyle body) (alternative.lexemes ++ back)
  exact ⟨scopes, st, st', hrun, hready, hline rfl, hsettled rfl, hrun.append hbranch, hfresh⟩

end ScriptLayout.Branch
