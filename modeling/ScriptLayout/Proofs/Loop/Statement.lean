import ScriptLayout.Proofs.Loop.Token

/-!
# The placing of a loop

What placing a statement leaves (`spec`): the single statements that it is the body of are
closed, and the next token may begin a statement. Whether a while there would be taken for
the end of a loop depends on the outermost of the scopes that were closed last, on whether
the statement comes down to an empty block, and on what was known before its last token
(`Signals`).

The proof is by induction on phrases, with a lemma for each way to make one. From it, every
statement of a program is placed where a statement may begin (`Within.exists_run`).
-/

namespace ScriptLayout.Loop

open Layout Program

variable {style : Style} {scopes : List Scope} {st st' last : State} {scope : Scope} {e : Operand}
  {c : Condition} {rest : List Lexeme} {body s : Phrase .statement} {stmts : Phrase .statements}

/-! ### How statements begin -/

theorem statement_begins (s : Phrase .statement) : BeginsStatement s.isBlock s.lexemes := by
  cases s with
  | simple e => exact ⟨_, _, rfl, e.begins.1⟩
  | block => exact ⟨_, _, rfl, rfl⟩
  | headed w hw =>
    have hall : ∀ w ∈ headerWords, w ∉ ["catch", "finally", ":"] := by decide
    exact ⟨_, _, rfl, List.mem_cons_self, hall w hw⟩
  | loop => exact ⟨_, _, rfl, List.mem_cons_self, by decide⟩

theorem resumes_statements (stmts : Phrase .statements) (hr : Resumes rest) :
    Resumes (stmts.lexemes ++ rest) := by
  cases stmts with
  | none => exact hr
  | more first stmts =>
    rw [Phrase.lexemes, List.append_assoc]
    exact (statement_begins first).resumes _

theorem nextIn_more (first : Phrase .statement) (stmts : Phrase .statements) (rest : List Lexeme) :
    nextIn ((Phrase.more first stmts).lexemes ++ rest).head? [.closeBrace] = false := by
  rw [Phrase.lexemes, List.append_assoc]
  exact ((statement_begins first).nextIn _).2.2

/-! ### Specifications -/

/-- The state is one in which the phrase may begin. A block may begin on the line of a
    header. -/
def Starts : {k : Form} → Phrase k → List Scope → State → Prop
  | .statement, p, scopes, st => if p.isBlock then AtBrace scopes st else AtStatement scopes st
  | .statements, _, scopes, st =>
    AtStatement scopes st ∧ scopes.dropWhile Scope.isSingle = scopes

/-- The scope that is closed last with a statement: the outermost of the single statements
    that it is the body of, or else the block that it is itself. -/
def closedLast (s : Phrase .statement) (scopes : List Scope) (st : State) : Option Scope :=
  (outermost scopes).or
    (if s.isBlock then some (Draft.ofState st).state.line.braceScope else none)

/-- Whether a while is taken for the end of a loop, after a statement with which `scope` is
    closed last, and before whose last token it was known that a loop had ended if `known`
    is true. -/
structure Signals (scope : Scope) (hollow known : Bool) (st : State) : Prop where
  eq : signals st = (!hollow && (scope.isDo || known))
  closed : signals st → st.scopes.closed = scope

/-- The specification of a phrase, by its form. -/
def Spec (style : Style) : {k : Form} → Phrase k → Prop
  | .statement, p => ∀ {scopes st rest}, Starts p scopes st → Resumes rest →
    ∃ last st', Passes style (fun p => p.Keeps) st p.lexemes rest last st' ∧
      AtStatement (scopes.dropWhile Scope.isSingle) st' ∧
      ∀ scope ∈ closedLast p scopes st, Signals scope p.isHollow last.doClosedNext st'
  | .statements, p => ∀ {scopes st rest}, Starts p scopes st → Resumes rest →
    ∃ st', Run style (fun p => p.Keeps) st p.lexemes rest st' ∧ AtStatement scopes st'

theorem starts_of_atStatement (h : AtStatement scopes st) : Starts s scopes st := by
  rw [Starts]
  split
  · exact h.toAtBrace
  · exact h

/-- Statements may begin at the beginning of a source. -/
theorem starts_source {p : Phrase .statements} : Starts p [] {} :=
  ⟨atStatement_start, rfl⟩

/-! ### Simple statements and blocks -/

theorem Spec.simple (e : Operand) : Spec style (.simple e) := by
  intro scopes st rest h hr
  have hst : AtStatement scopes st := h
  have hoperand := hst.run_operand style e (mark .semicolon ";" :: rest)
  have hline : AtBrace scopes { (Draft.ofState st).state with previous := e.kind } :=
    hst.toAtBrace.of_joined (seam_ofState st) (scopes_ofState st) hst.caseHeader hst.doClosedNext
  have hseam : ({ (Draft.ofState st).state with previous := e.kind } : State).seam = .joined :=
    seam_ofState st
  have hsemicolon := run_semicolon style hline.ruled
    (by rw [ofState_of_joined hseam]; exact hst.parens) (hr.nextIn_eq_false (by decide))
  refine ⟨_, _, ⟨[e.toLexeme], mark .semicolon ";", rfl, hoperand,
    hsemicolon.mono fun p hp => (Draft.Keeps.ofState _).of_gap_eq hp.1⟩,
    hline.atStatement_ended, fun scope hscope => ?_⟩
  have hlast : outermost scopes = some scope := (Option.or_none ..).symm.trans hscope
  refine ⟨?_, fun _ => ?_⟩
  · have hknown : ({ (Draft.ofState st).state with previous := e.kind } : State).doClosedNext =
        false := hst.doClosedNext
    rw [hline.signals_ended, hlast, hknown, Bool.or_false]
    rfl
  · rw [hline.closed_ended, hlast]
    rfl

theorem Spec.emptyBlock (hstyle : style.openBraceOnNewLine = false) :
    Spec style (.block .none) := by
  intro scopes st rest h hr
  have hst : AtBrace scopes st := h
  obtain ⟨last, st', hopen, hclose, hat, hsignals⟩ := hst.run_emptyPair hstyle hr
  refine ⟨last, st', ⟨_, _, rfl, hopen, hclose⟩, hat, fun scope _ => ⟨hsignals, fun hs => ?_⟩⟩
  simp [hsignals] at hs

theorem Spec.block (hstyle : style.openBraceOnNewLine = false) {first : Phrase .statement}
    (hss : Spec style (.more first stmts)) : Spec style (.block (.more first stmts)) := by
  intro scopes st rest h hr
  have hst : AtBrace scopes st := h
  obtain ⟨st₁, hopen, hat₁, -⟩ := hst.run_openBrace hstyle
    (nextIn_more first stmts (mark .closeBrace braceClose :: rest))
  have hbrace := isSingle_braceScope (Draft.ofState st).state.line
  have hend : Resumes (mark .closeBrace braceClose :: rest) := resumes_closeBrace
  obtain ⟨st₂, hbody, hat₂⟩ :=
    hss ⟨hat₁, List.dropWhile_cons_of_neg (by simp [hbrace])⟩ hend
  obtain ⟨st', hclose, hat, hsignals, hclosed, -⟩ := hat₂.run_closeBrace style hbrace hr
  refine ⟨st₂, st', ⟨_, _, rfl, hopen.append hbody, hclose⟩, hat, fun scope hscope => ?_⟩
  have hlast : (outermost scopes).getD (Draft.ofState st).state.line.braceScope = scope := by
    rw [closedLast, Phrase.isBlock, if_pos rfl, Option.mem_def] at hscope
    cases ho : outermost scopes <;> rw [ho] at hscope <;> exact Option.some.inj hscope
  rw [hlast] at hsignals hclosed
  exact ⟨hsignals, fun _ => hclosed⟩

/-! ### Headers -/

/-- The header of a statement leaves a state in which its body may begin. A while that is
    taken for the end of a loop opens nothing for it. -/
theorem AtStatement.run_header (style : Style) {w : String} (h : AtStatement scopes st)
    (hw : w ∈ headerWords) (c : Condition) (body : Phrase .statement) (rest : List Lexeme) :
    ∃ scopes' st',
      Run style (fun p => p.Keeps) st (word w :: c.inParens) (body.lexemes ++ rest) st' ∧
      Starts body scopes' st' ∧ (scopes' = scopes ∨ scopes' = .single :: scopes) := by
  cases hs : signals st && w == "while" with
  | true =>
    obtain ⟨hsignals, hw⟩ := Bool.and_eq_true_iff.1 hs
    obtain rfl := beq_iff_eq.1 hw
    obtain ⟨st₁, st', hword, hrun, -, -, hat⟩ := h.run_while style hsignals c
      (body.lexemes ++ rest)
    exact ⟨scopes, st', (hword.mono fun _ hp => hp.1).append (hrun.mono fun _ hp => hp.keeps),
      starts_of_atStatement hat, .inl rfl⟩
  | false =>
    obtain ⟨st₁, st', hword, hrun, hseam, -, hprevious, hbrace, -⟩ :=
      h.run_headerWord style hw hs c (body.lexemes ++ rest)
    have hall := (hword.mono fun _ hp => hp.1).append (hrun.mono fun _ hp => hp.keeps)
    rw [((statement_begins body).nextIn rest).2.1] at hall
    cases hb : body.isBlock with
    | true =>
      rw [hb, if_pos rfl] at hall
      exact ⟨scopes, st', hall, by rwa [Starts, if_pos hb], .inl rfl⟩
    | false =>
      rw [hb, if_neg Bool.false_ne_true] at hall
      exact ⟨_, _, hall, starts_of_atStatement (hbrace.push rfl (by rw [hprevious]; decide)),
        .inr rfl⟩

theorem Spec.headed {w : String} (hw : w ∈ headerWords) (c : Condition) (hb : Spec style body) :
    Spec style (.headed w hw c body) := by
  intro scopes st rest h hr
  have hst : AtStatement scopes st := h
  obtain ⟨scopes', st₁, hheader, hstarts, hscopes⟩ := hst.run_header style hw c body rest
  obtain ⟨last, st', hbody, hat, hsignals⟩ := hb hstarts hr
  -- The single statement of the header, if it has opened one, ends with those around it, of
  -- which the outermost is the same.
  have hdrop : scopes'.dropWhile Scope.isSingle = scopes.dropWhile Scope.isSingle := by
    rcases hscopes with rfl | rfl <;> rfl
  refine ⟨last, st', .of_run hheader hbody, hdrop ▸ hat, fun scope hscope => hsignals scope ?_⟩
  have hlast : outermost scopes = some scope := (Option.or_none ..).symm.trans hscope
  have hlast' : outermost scopes' = some scope := by
    rcases hscopes with rfl | rfl
    · exact hlast
    · rw [outermost_cons rfl, hlast]
      rfl
  rw [closedLast, hlast']
  rfl

/-! ### Loops -/

/-- The body of a loop begins after the do, and what is closed last with it is the body of
    the loop, unless the loop is the body of other single statements itself. -/
theorem AtStatement.run_do (style : Style) (h : AtStatement scopes st)
    (body : Phrase .statement) (rest : List Lexeme) : ∃ scopes' st' scope,
      Run style (fun p => p.Keeps) st [word "do"] (body.lexemes ++ rest) st' ∧
      Starts body scopes' st' ∧
      scopes'.dropWhile Scope.isSingle = scopes.dropWhile Scope.isSingle ∧ scope.isDo ∧
      closedLast body scopes' st' = some ((outermost scopes).getD scope) := by
  obtain ⟨st', hrun, hprevious, hbrace, hdo⟩ := h.run_doWord style (body.lexemes ++ rest)
  rw [((statement_begins body).nextIn rest).1] at hrun
  cases hb : body.isBlock with
  | true =>
    rw [hb, if_pos rfl] at hrun
    refine ⟨scopes, st', .doBlock, hrun, by rwa [Starts, if_pos hb], rfl, rfl, ?_⟩
    rw [closedLast, if_pos hb, hdo]
    cases outermost scopes <;> rfl
  | false =>
    rw [hb, if_neg Bool.false_ne_true] at hrun
    have hpush := hbrace.push (s := .doSingle) rfl (by rw [hprevious]; decide)
    refine ⟨_, _, .doSingle, hrun, starts_of_atStatement hpush, rfl, rfl, ?_⟩
    rw [closedLast, outermost_cons rfl]
    rfl

/-- The while after the body of a loop, with its condition and semicolon. If it is taken for
    that, it opens nothing, and the line goes on. Otherwise it opens a single statement, and
    the semicolon begins the next line. -/
theorem AtStatement.run_closing (style : Style) (h : AtStatement scopes st)
    (hs : scopes.dropWhile Scope.isSingle = scopes) (c : Condition) (hr : Resumes rest) :
    ∃ st₁ last st',
      Run style (fun p => p.Keeps ∧ p.state.scopes = st.scopes) st [word "while"]
        (c.inParens ++ mark .semicolon ";" :: rest) st₁ ∧
      Run style (Inline st.scopes) st₁ c.inParens (mark .semicolon ";" :: rest) last ∧
      Run style (fun p => if signals st then Inline st.scopes p else
        p.gap = [.line (st.scopes.depth + 1)] ∧ p.state.scopes = st.scopes.push .single) last
        [mark .semicolon ";"] rest st' ∧
      last.doClosedNext = false ∧ AtStatement scopes st' ∧
      signals st' = (signals st && st.scopes.closed.isDo) ∧
      (signals st → st'.scopes.closed = st.scopes.closed) := by
  have hcomment : nextIn rest.head? [.lineComment, .inlineComment] = false :=
    hr.nextIn_eq_false (by decide)
  cases hsig : signals st with
  | true =>
    obtain ⟨st₁, last, hword, hrun, hseam, hscopes, hat⟩ := h.run_while style hsig c
      (mark .semicolon ";" :: rest)
    have hend := run_semicolon style hat.ruled hat.parens hcomment
    have hsettled := outermost_of_settled hs
    refine ⟨st₁, last, _, hword, hrun, hend.mono fun p hp => ?_, ?_, hs ▸ hat.atStatement_ended,
      ?_, fun _ => ?_⟩
    · rw [if_pos rfl]
      rw [ofState_of_joined hseam] at hp
      exact ⟨.inl hp.1, hp.2.trans hscopes⟩
    · have hnext := hat.doClosedNext
      rwa [ofState_of_joined hseam] at hnext
    · rw [hat.signals_ended, hsettled, hscopes]
      rfl
    · rw [hat.closed_ended, hsettled, hscopes]
      rfl
  | false =>
    obtain ⟨st₁, last, hword, hrun, hseam, hscopes, hprevious, hbrace, -⟩ :=
      h.run_headerWord style (w := "while") (by decide) (by rw [hsig]; rfl) c
        (mark .semicolon ";" :: rest)
    have hpush := hbrace.push (s := .single) rfl (by rw [hprevious]; decide)
    have hend := run_semicolon style hpush.ruled hpush.parens hcomment
    refine ⟨st₁, _, _, hword, hrun, hend.mono fun p hp => ?_, ?_, ?_, ?_,
      fun hf => absurd hf Bool.false_ne_true⟩
    · have hdepth : (last.push .single).scopes.depth = st.scopes.depth + 1 := by
        rw [← hscopes]
        rfl
      rw [ofState_of_broken rfl] at hp
      rw [if_neg Bool.false_ne_true, ← hdepth, ← hscopes]
      exact hp
    · have hnext := hbrace.doClosedNext
      rwa [ofState_of_joined hseam] at hnext
    · have hat := hpush.atStatement_ended
      rwa [List.dropWhile_cons_of_pos rfl, hs] at hat
    · rw [hpush.signals_ended, outermost_cons rfl, outermost_of_settled hs]
      rfl

theorem Spec.loop (hb : Spec style body) (c : Condition) : Spec style (.loop body c) := by
  intro scopes st rest h hr
  have hst : AtStatement scopes st := h
  obtain ⟨scopes', st₁, scope, hdo, hstarts, hdrop, hscope, hlast⟩ := hst.run_do style body
    ([word "while"] ++ (c.inParens ++ mark .semicolon ";" :: rest))
  have hwhile : Resumes ([word "while"] ++ (c.inParens ++ mark .semicolon ";" :: rest)) := by
    rintro _ ⟨⟩
    decide
  obtain ⟨_, st₂, hbody, hat, hsignals⟩ := hb hstarts hwhile
  rw [hdrop] at hat
  -- The single statements around the loop have ended with its body. None is open at the while.
  obtain ⟨st₃, last, st', hword, hcondition, hend, hknown, hat', hsignals', hclosed⟩ :=
    hat.run_closing style (List.dropWhile_idempotent _ _) c hr
  have hinit := ((hdo.append hbody.run).append (hword.mono fun _ hp => hp.1)).append
    (hcondition.mono fun _ hp => hp.keeps)
  have hsemicolon : Run style (fun p => p.Keeps) last [mark .semicolon ";"] rest st' := by
    refine hend.mono fun p hp => ?_
    split at hp
    · exact hp.keeps
    · exact .line hp.1
  refine ⟨last, st', ⟨_, _, by simp [Phrase.lexemes], hinit, hsemicolon⟩, hat',
    fun outer houter => ?_⟩
  have hloop : outermost scopes = some outer := (Option.or_none ..).symm.trans houter
  rw [hloop] at hlast
  obtain ⟨heq, hdone⟩ := hsignals outer hlast
  have hhollow : (Phrase.loop body c).isHollow = body.isHollow := rfl
  cases hs : signals st₂ with
  | true =>
    -- The while is taken for the end of the loop, and leaves what was closed last.
    rw [hs] at heq
    rw [hs, hdone hs, Bool.true_and] at hsignals'
    refine ⟨?_, fun _ => (hclosed hs).trans (hdone hs)⟩
    have hbody : body.isHollow = false := by simpa using (Bool.and_eq_true_iff.1 heq.symm).1
    rw [hsignals', hhollow, hbody, hknown, Bool.or_false]
    rfl
  | false =>
    rw [hs] at heq
    rw [hs, Bool.false_and] at hsignals'
    refine ⟨?_, fun hf => absurd (hsignals'.symm.trans hf) Bool.false_ne_true⟩
    rw [hsignals', hhollow, hknown, Bool.or_false]
    cases hb : body.isHollow <;> cases ho : outer.isDo <;> simp [hb, ho] at heq ⊢

/-! ### All phrases -/

theorem Spec.none : Spec style .none := by
  intro scopes st rest h hr
  exact ⟨st, .nil _ _, h.1⟩

theorem Spec.more {first : Phrase .statement} (hf : Spec style first) (hss : Spec style stmts) :
    Spec style (.more first stmts) := by
  intro scopes st rest h hr
  obtain ⟨hat, hsettled⟩ := h
  obtain ⟨_, st₁, hfirst, hat₁, -⟩ := hf (starts_of_atStatement hat) (resumes_statements stmts hr)
  rw [hsettled] at hat₁
  obtain ⟨st', hrest, hat'⟩ := hss ⟨hat₁, hsettled⟩ hr
  exact ⟨st', hfirst.run.append hrest, hat'⟩

/-- Every phrase is placed as specified, where braces stay on the line. -/
theorem spec (hstyle : style.openBraceOnNewLine = false) {k : Form} (p : Phrase k) :
    Spec style p := by
  induction p with
  | simple e => exact Spec.simple e
  | block body hb =>
    cases body with
    | none => exact Spec.emptyBlock hstyle
    | more first rest => exact Spec.block hstyle hb
  | headed w hw c body hb => exact Spec.headed hw c hb
  | loop body c hb => exact Spec.loop hb c
  | none => exact Spec.none
  | more first rest hf hss => exact Spec.more hf hss

/-! ### Statements within a program -/

/-- Every statement in a phrase is placed where it may begin, and before what may come after
    a statement. -/
theorem Within.exists_run (hstyle : style.openBraceOnNewLine = false) {k : Form} {p : Phrase k}
    {front back : List Lexeme} (hw : Within s p front back) (h : Starts p scopes st)
    (hr : Resumes rest) : ∃ scopes' st',
      Run style (fun p => p.Keeps) st front (s.lexemes ++ (back ++ rest)) st' ∧
      Starts s scopes' st' ∧ Resumes (back ++ rest) := by
  -- On the way down to the statement. What comes before it on the way is placed as specified.
  induction hw generalizing scopes st rest with
  | self => exact ⟨scopes, st, .nil _ _, h, hr⟩
  | @block body front back hw ih =>
    have hst : AtBrace scopes st := h
    have hn : nextIn (body.lexemes ++ (mark .closeBrace braceClose :: rest)).head? [.closeBrace] =
        false := by
      cases body with
      | none => cases hw
      | more first stmts => exact nextIn_more first stmts _
    rw [hw.lexemes_append] at hn
    obtain ⟨st₁, hopen, hat, -⟩ := hst.run_openBrace hstyle hn
    have hbrace := isSingle_braceScope (Draft.ofState st).state.line
    have hend : Resumes (mark .closeBrace braceClose :: rest) := resumes_closeBrace
    obtain ⟨scopes', st', hrun, hstarts, hresumes⟩ :=
      ih ⟨hat, List.dropWhile_cons_of_neg (by simp [hbrace])⟩ hend
    rw [List.append_assoc]
    exact ⟨scopes', st', hopen.append hrun, hstarts, hresumes⟩
  | @headed text hword c body front back hw ih =>
    have hst : AtStatement scopes st := h
    obtain ⟨_, st₁, hheader, hstarts₁, -⟩ := hst.run_header style hword c body rest
    obtain ⟨scopes', st', hrun, hstarts, hresumes⟩ := ih hstarts₁ hr
    rw [hw.lexemes_append] at hheader
    exact ⟨scopes', st', hheader.append hrun, hstarts, hresumes⟩
  | @loop body c front back hw ih =>
    have hst : AtStatement scopes st := h
    obtain ⟨_, st₁, _, hdo, hstarts₁, -⟩ := hst.run_do style body
      (word "while" :: (c.inParens ++ [mark .semicolon ";"]) ++ rest)
    have hwhile : Resumes (word "while" :: (c.inParens ++ [mark .semicolon ";"]) ++ rest) := by
      rintro _ ⟨⟩
      decide
    obtain ⟨scopes', st', hrun, hstarts, hresumes⟩ := ih hstarts₁ hwhile
    rw [hw.lexemes_append] at hdo
    rw [List.append_assoc]
    exact ⟨scopes', st', hdo.append hrun, hstarts, hresumes⟩
  | @first first stmts front back hw ih =>
    obtain ⟨scopes', st', hrun, hstarts, hresumes⟩ :=
      ih (starts_of_atStatement h.1) (resumes_statements stmts hr)
    rw [List.append_assoc]
    exact ⟨scopes', st', hrun, hstarts, hresumes⟩
  | @rest first stmts front back hw ih =>
    obtain ⟨hat, hsettled⟩ := h
    obtain ⟨_, st₁, hfirst, hat₁, -⟩ := spec hstyle first (starts_of_atStatement hat)
      (resumes_statements stmts hr)
    rw [hsettled] at hat₁
    obtain ⟨scopes', st', hrun, hstarts, hresumes⟩ := ih ⟨hat₁, hsettled⟩ hr
    have hrunFirst := hfirst.run
    rw [hw.lexemes_append] at hrunFirst
    exact ⟨scopes', st', hrunFirst.append hrun, hstarts, hresumes⟩

end ScriptLayout.Loop
