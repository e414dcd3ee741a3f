import ScriptLayout.Proofs.Format.Run
import ScriptLayout.Proofs.Loop.Grammar
import ScriptLayout.Proofs.Program.Statement

/-!
# The tokens of a loop

How the tokens of loops and headers are placed. A condition leaves the scopes as they are,
and stays on its line (`run_balanced`). What its last parenthesis does depends on the line:
after the word of a header it opens a single statement, after the while of a loop it does
not (`AtBrace.run_condition`). The line knows by a flag of its own, which a while looks up
where it stands (`signals`).
-/

namespace ScriptLayout.Loop

open Layout Program

variable {style : Style} {scopes : List Scope} {st st' : State} {t : Lexeme} {next : Option Lexeme}
  {ts rest : List Lexeme} {P : Placing → Prop}

/-! ### Seams -/

/-- The token is placed by the rule for its kind. -/
def Ruled (st : State) : Prop :=
  st.seam ∈ [.start, .joined, .broken]

theorem ruled_of_joined (h : st.seam = .joined) : Ruled st := by
  rw [Ruled, h]
  decide

theorem ruled_of_broken (h : st.seam = .broken) : Ruled st := by
  rw [Ruled, h]
  decide

theorem place_of_ruled (h : Ruled st) : place style st t next =
    { (rule style st.seam t next (.ofState st)).1 with
      text := t.text
      after := { (rule style st.seam t next (.ofState st)).2 with previous := t.kind } } := by
  simp only [Ruled, List.mem_cons, List.not_mem_nil, or_false] at h
  rw [place]
  rcases h with h | h | h <;> rw [h]

theorem run_of_place {p : Placing} (hp : place style st t rest.head? = p) (hP : P p) :
    Run style P st [t] rest p.after := by
  subst hp
  exact .single hP

theorem run_of_rule {d : Draft} {after : State} (hs : Ruled st)
    (hr : rule style st.seam t rest.head? (.ofState st) = (d, after))
    (hP : P { d with text := t.text, after := { after with previous := t.kind } }) :
    Run style P st [t] rest { after with previous := t.kind } := by
  refine run_of_place (p := ⟨d, t.text, { after with previous := t.kind }⟩) ?_ hP
  rw [place_of_ruled hs, hr]

@[simp]
theorem scopes_ofState (st : State) : (Draft.ofState st).state.scopes = st.scopes := by
  rw [Draft.ofState]
  split <;> rfl

@[simp]
theorem previous_ofState (st : State) : (Draft.ofState st).state.previous = st.previous := by
  rw [Draft.ofState]
  split <;> rfl

@[simp]
theorem seam_ofState (st : State) : (Draft.ofState st).state.seam = .joined := by
  rw [Draft.ofState]
  split <;> rfl

theorem ofState_of_joined (h : st.seam = .joined) : Draft.ofState st = ⟨[], false, st⟩ := by
  obtain ⟨scopes, line, doClosedNext, parens, brackets, seam, previous⟩ := st
  obtain rfl : seam = .joined := h
  rfl

theorem ofState_of_broken (h : st.seam = .broken) :
    Draft.ofState st = ⟨[.line st.scopes.depth], true, st.newLine.join .joined⟩ := by
  rw [Draft.ofState_of_broken h]
  rfl

/-! ### Conditions -/

/-- The placing leaves a space at most, in the scopes given. -/
structure Inline (scopes : Scopes) (p : Placing) : Prop where
  gap : p.gap = [] ∨ p.gap = [.space]
  scopes : p.state.scopes = scopes

theorem Inline.keeps {s : Scopes} {p : Placing} (h : Inline s p) : p.Keeps := by
  rcases h.gap with hg | hg
  · exact .of_gap_eq_nil hg
  · intro unit written
    rw [hg]
    exact List.suffix_cons _ _

/-- The state is that within a condition. -/
structure InCondition (st : State) : Prop where
  seam : st.seam = .joined
  parens : 0 < st.parens
  caseHeader : st.line.caseHeader = false
  previous : st.previous ≠ .closeBrace
  current : st.scopes.current ≠ .objectList

/-- The state differs in nothing that a condition could not have changed. -/
def Resembles (st st' : State) : Prop :=
  ∃ brackets objectColon ternary previous, previous ≠ Kind.closeBrace ∧
    st' = { st with brackets, line := { st.line with objectColon, ternary }, previous }

theorem Resembles.trans {st'' : State} (h : Resembles st st') (h' : Resembles st' st'') :
    Resembles st st'' := by
  obtain ⟨_, _, _, _, -, rfl⟩ := h
  obtain ⟨brackets, objectColon, ternary, previous, hp, rfl⟩ := h'
  exact ⟨brackets, objectColon, ternary, previous, hp, rfl⟩

theorem Resembles.scopes_eq (h : Resembles st st') : st'.scopes = st.scopes := by
  obtain ⟨_, _, _, _, -, rfl⟩ := h
  rfl

theorem Resembles.seam_eq (h : Resembles st st') : st'.seam = st.seam := by
  obtain ⟨_, _, _, _, -, rfl⟩ := h
  rfl

theorem InCondition.resembles (h : InCondition st) : Resembles st st :=
  ⟨_, _, _, _, h.previous, rfl⟩

theorem InCondition.of_resembles (h : InCondition st) (hr : Resembles st st') :
    InCondition st' := by
  obtain ⟨_, _, _, _, hp, rfl⟩ := hr
  exact ⟨h.seam, h.parens, h.caseHeader, hp, h.current⟩

theorem gap_spaceUnlessAfter {d : Draft} (kinds : List Kind) (h : d.gap = []) :
    (d.spaceUnlessAfter kinds).gap = [] ∨ (d.spaceUnlessAfter kinds).gap = [.space] := by
  rw [Draft.gap_spaceUnlessAfter, h]
  split
  · exact .inl rfl
  · exact .inr rfl

/-- A token of a condition stays on the line, and opens nothing. -/
theorem InCondition.exists_rule_eq (style : Style) (h : InCondition st) (seam : Seam)
    (next : Option Lexeme) (hk : t.kind ∈ conditionKinds) (hl : isLabel t.text = false) :
    ∃ d after, rule style seam t next ⟨[], false, st⟩ = (d, after) ∧
      (d.gap = [] ∨ d.gap = [.space]) ∧ d.state.scopes = st.scopes ∧
      Resembles st { after with previous := t.kind } := by
  have hparens : st.parens ≠ 0 := Nat.ne_of_gt h.parens
  have hspace (kinds : List Kind) := gap_spaceUnlessAfter (d := ⟨[], false, st⟩) kinds rfl
  rw [Layout.rule]
  cases ht : t.kind with
  | openBrace | closeBrace | openParen | closeParen | lineComment | inlineComment =>
    rw [ht] at hk
    exact absurd hk (by decide)
  | symbol =>
    have hfun : functionDraft style t.text ⟨[], false, st⟩ = ⟨[], false, st⟩ := by
      simp [functionDraft, h.previous]
    refine ⟨_, st, ?_, hspace [.openParen, .openBracket, .unaryPrefix, .dot], by simp,
      _, _, _, _, by decide, rfl⟩
    simp [symbol_eq, hfun, labelDraft_eq hl, hparens, hl]
  | string | number | regex | binaryOperator | unaryPrefix =>
    refine ⟨_, st, ?_, hspace [.openParen, .openBracket, .unaryPrefix], by simp,
      _, _, _, _, by decide, rfl⟩
    simp [operand]
  | openBracket =>
    refine ⟨_, { st with brackets := st.brackets + 1 }, ?_,
      hspace [.symbol, .openParen, .closeParen, .closeBracket], by simp, _, _, _, _, by decide, rfl⟩
    simp [openBracket, hparens]
  | closeBracket =>
    refine ⟨⟨[], false, { st with brackets := st.brackets - 1 }⟩,
      { st with brackets := st.brackets - 1 }, ?_, .inl rfl, rfl, _, _, _, _, by decide, rfl⟩
    simp [closeBracket, Draft.update, h.current]
  | semicolon =>
    refine ⟨⟨[], false, st⟩, st, ?_, .inl rfl, rfl, _, _, _, _, by decide, rfl⟩
    simp [semicolon, h.parens]
  | comma =>
    refine ⟨⟨[], false, st⟩, st, ?_, .inl rfl, rfl, _, _, _, _, by decide, rfl⟩
    simp [comma, h.previous, hparens]
  | colon =>
    cases hternary : st.line.ternary with
    | true =>
      refine ⟨⟨[.space], false, st⟩, st, ?_, .inr rfl, rfl, _, _, _, _, by decide, rfl⟩
      simp [colon, h.caseHeader, hternary, Draft.space]
    | false =>
      refine ⟨⟨[], false, st⟩, { st with line := { st.line with objectColon := true } }, ?_,
        .inl rfl, rfl, _, _, _, _, by decide, rfl⟩
      simp [colon, h.caseHeader, hternary, h.previous]
  | questionMark =>
    exact ⟨⟨[.space], false, { st with line := { st.line with ternary := true } }⟩, _, rfl,
      .inr rfl, rfl, _, _, _, _, by decide, rfl⟩
  | dot | unarySuffix | unknown =>
    exact ⟨⟨[], false, st⟩, st, rfl, .inl rfl, rfl, _, _, _, _, by decide, rfl⟩

theorem InCondition.run_token (style : Style) (h : InCondition st) (hk : t.kind ∈ conditionKinds)
    (hl : isLabel t.text = false) (rest : List Lexeme) :
    ∃ st', Run style (Inline st.scopes) st [t] rest st' ∧ Resembles st st' := by
  obtain ⟨d, after, hr, hg, hs, hres⟩ := h.exists_rule_eq style st.seam rest.head? hk hl
  rw [← ofState_of_joined h.seam] at hr
  exact ⟨_, run_of_rule (ruled_of_joined h.seam) hr ⟨hg, hs⟩, hres⟩

/-- A parenthesis that is opened on a line. -/
theorem run_openParen (style : Style) (h : st.seam = .joined) (rest : List Lexeme) :
    Run style (Inline st.scopes) st [mark .openParen "("] rest
      { st with parens := st.parens + 1, previous := .openParen } := by
  let close : List Kind := [.openParen, .unaryPrefix, .closeBracket, .closeParen, .closeBrace]
  let kinds := if st.line.blockHeader && st.parens == 0 then close else .symbol :: close
  have hr : rule style st.seam (mark .openParen "(") rest.head? (Draft.ofState st) =
      ((⟨[], false, st⟩ : Draft).spaceUnlessAfter kinds, { st with parens := st.parens + 1 }) := by
    rw [ofState_of_joined h]
    simp [rule, mark, openParen, kinds, close]
  exact run_of_rule (ruled_of_joined h) hr ⟨gap_spaceUnlessAfter kinds rfl, by simp⟩

/-- A parenthesis that is closed within others. -/
theorem run_closeParen (style : Style) (h : st.seam = .joined) (hp : 1 < st.parens)
    (rest : List Lexeme) : Run style (Inline st.scopes) st [mark .closeParen ")"] rest
      { st with parens := st.parens - 1, previous := .closeParen } := by
  have hr : rule style st.seam (mark .closeParen ")") rest.head? (Draft.ofState st) =
      (⟨[], false, st⟩, { st with parens := st.parens - 1 }) := by
    have hne : st.parens - 1 ≠ 0 := by omega
    rw [ofState_of_joined h]
    simp [rule, mark, closeParen, hne]
  exact run_of_rule (ruled_of_joined h) hr ⟨.inl rfl, rfl⟩

/-- A condition stays on the line, and opens nothing. -/
theorem run_balanced (style : Style) (hts : Balanced ts) (h : InCondition st) (rest : List Lexeme) :
    ∃ st', Run style (Inline st.scopes) st ts rest st' ∧ Resembles st st' := by
  -- On the pairs of parentheses. The condition stands in a pair of its own, so none of them
  -- is the last to be closed.
  induction hts generalizing st rest with
  | nil => exact ⟨st, .nil _ _, h.resembles⟩
  | @plain t ts hk hl _ ih =>
    obtain ⟨st₁, hrun, hres⟩ := h.run_token style hk hl (ts ++ rest)
    obtain ⟨st₂, hrun', hres'⟩ := ih (h.of_resembles hres) rest
    rw [hres.scopes_eq] at hrun'
    exact ⟨st₂, hrun.append hrun', hres.trans hres'⟩
  | @group ts ts' _ _ ih ih' =>
    have hopen : InCondition { st with parens := st.parens + 1, previous := .openParen } :=
      ⟨h.seam, Nat.succ_pos _, h.caseHeader, by simp, h.current⟩
    obtain ⟨inner, hrun, hinner⟩ := ih hopen ([mark .closeParen ")"] ++ (ts' ++ rest))
    have hseam : inner.seam = .joined := hinner.seam_eq.trans h.seam
    obtain ⟨brackets, objectColon, ternary, previous, -, rfl⟩ := hinner
    have hclose := run_closeParen style hseam (Nat.succ_lt_succ h.parens) (ts' ++ rest)
    have hres : Resembles st { st with brackets, previous := .closeParen
                                       line := { st.line with objectColon, ternary } } :=
      ⟨_, _, _, _, by decide, rfl⟩
    obtain ⟨st', hrun', hres'⟩ := ih' (h.of_resembles hres) rest
    refine ⟨st', ?_, hres.trans hres'⟩
    have hall := (run_openParen style h.seam _).append ((hrun.append hclose).append hrun')
    simpa using hall

/-- The outermost parenthesis opens a single statement after the word of a header, unless a
    brace follows. -/
theorem run_closeParen_last (style : Style) (h : st.seam = .joined) (hp : st.parens = 1)
    (rest : List Lexeme) :
    Run style (Inline st.scopes) st [mark .closeParen ")"] rest
      (if st.line.blockHeader && !nextIn rest.head? [.openBrace] then
        (State.push { st with parens := 0, previous := .closeParen } .single).join .broken
      else { st with parens := 0, previous := .closeParen }) := by
  have hr : rule style st.seam (mark .closeParen ")") rest.head? (Draft.ofState st) =
      (⟨[], false, st⟩, if st.line.blockHeader && !nextIn rest.head? [.openBrace] then
        (State.push { st with parens := 0 } .single).join .broken
      else { st with parens := 0 }) := by
    rw [ofState_of_joined h]
    simp [rule, mark, closeParen, hp]
  have hrun := run_of_rule (P := Inline st.scopes) (ruled_of_joined h) hr ⟨.inl rfl, rfl⟩
  split at hrun
  · next hopens => rwa [if_pos hopens]
  · next hopens => rwa [if_neg hopens]

/-! ### How statements begin -/

/-- The source may end after a statement. -/
theorem resumes_nil : Resumes [] :=
  fun _ h => absurd h (Option.not_mem_none _)

/-- The lexemes begin as those of a statement do: with a brace if it is a block, and with a
    word, a number or a string otherwise. -/
def BeginsStatement (braced : Bool) (ts : List Lexeme) : Prop :=
  ∃ t ts', ts = t :: ts' ∧ if braced then t = mark .openBrace braceOpen else Begins t

namespace BeginsStatement

variable {braced : Bool}

theorem resumes (h : BeginsStatement braced ts) (rest : List Lexeme) : Resumes (ts ++ rest) := by
  obtain ⟨t, ts, rfl, ht⟩ := h
  split at ht
  · rintro _ ⟨⟩
    rw [ht]
    decide
  · exact Begins.resumes ht

/-- Statements begin with a brace if they are blocks, and never with a parenthesis or a
    closing brace. -/
theorem nextIn (h : BeginsStatement braced ts) (rest : List Lexeme) :
    nextIn (ts ++ rest).head? [.openBrace, .openParen] = braced ∧
      nextIn (ts ++ rest).head? [.openBrace] = braced ∧
      nextIn (ts ++ rest).head? [.closeBrace] = false := by
  obtain ⟨t, ts, rfl, ht⟩ := h
  rw [List.cons_append, List.head?_cons]
  cases braced with
  | true =>
    rw [if_pos rfl] at ht
    rw [ht]
    decide
  | false =>
    rw [if_neg Bool.false_ne_true] at ht
    have hk : t.kind ≠ .closeBrace := fun hk => absurd ht.1 (by rw [hk]; decide)
    exact ⟨ht.nextIn_eq_false.1, ht.nextIn_eq_false.2, by simp [Layout.nextIn, hk]⟩

end BeginsStatement

/-! ### Where statements begin -/

/-- The next token may be a brace that opens a block. It may stand on the line of a
    header. -/
structure AtBrace (scopes : List Scope) (st : State) : Prop where
  inner : st.scopes.inner = scopes
  ruled : Ruled st
  start : st.seam = .start → scopes = []
  plain : ∀ scope ∈ scopes, scope ≠ .caseBody ∧ scope ≠ .objectList
  caseHeader : (Draft.ofState st).state.line.caseHeader = false
  doClosedNext : (Draft.ofState st).state.doClosedNext = false

/-- The next token begins a statement. It need not begin a line, since the line of a while
    that is taken for the end of a loop goes on. -/
structure AtStatement (scopes : List Scope) (st : State) : Prop extends AtBrace scopes st where
  previous : st.previous ≠ .dot
  blockHeader : (Draft.ofState st).state.line.blockHeader = false
  doHeader : (Draft.ofState st).state.line.doHeader = false
  parens : (Draft.ofState st).state.parens = 0

/-- Whether a while that begins the next statement is taken for the end of a loop. -/
def signals (st : State) : Bool :=
  (Draft.ofState st).state.line.doClosed

theorem signals_of_broken (h : st.seam = .broken) : signals st = st.doClosedNext := by
  rw [signals, ofState_of_broken h]
  rfl

/-- A statement may begin wherever a line does. -/
theorem atStatement_of_broken (h : st.seam = .broken) (hi : st.scopes.inner = scopes)
    (hs : ∀ scope ∈ scopes, scope ≠ .caseBody ∧ scope ≠ .objectList) (hp : st.previous ≠ .dot) :
    AtStatement scopes st := by
  have hd := ofState_of_broken h
  refine ⟨⟨hi, ruled_of_broken h, fun hstart => ?_, hs, ?_, ?_⟩, hp, ?_, ?_, ?_⟩
  · exact absurd (hstart.symm.trans h) (by decide)
  all_goals rw [hd]; rfl

/-- What is so of the line before a token that begins a statement is so when it begins the
    first line. -/
theorem atStatement_start : AtStatement [] {} :=
  ⟨⟨rfl, List.mem_cons_self, fun _ => rfl, fun _ h => absurd h List.not_mem_nil, rfl, rfl⟩,
    by simp, rfl, rfl, rfl⟩

/-- The line goes on, and may be that of a header now. -/
theorem AtBrace.of_joined (h : AtBrace scopes st) (hs : st'.seam = .joined)
    (hi : st'.scopes = st.scopes) (hc : st'.line.caseHeader = false)
    (hd : st'.doClosedNext = false) : AtBrace scopes st' := by
  refine ⟨hi ▸ h.inner, ruled_of_joined hs, fun hstart => ?_, h.plain, ?_, ?_⟩
  · exact absurd (hstart.symm.trans hs) (by decide)
  · rw [ofState_of_joined hs, hc]
  · rw [ofState_of_joined hs, hd]

/-- A line that goes on, and is not that of a header. -/
theorem AtBrace.atStatement (h : AtBrace scopes st) (hs : st.seam = .joined)
    (hp : st.previous ≠ .dot) (hb : st.line.blockHeader = false) (hd : st.line.doHeader = false)
    (hparens : st.parens = 0) : AtStatement scopes st := by
  have hdraft := ofState_of_joined hs
  refine ⟨h, hp, ?_, ?_, ?_⟩ <;> rw [hdraft] <;> assumption

/-- A statement without braces begins the next line. -/
theorem AtBrace.push (h : AtBrace scopes st) {s : Scope} (hs : s.isSingle)
    (hp : st.previous ≠ .dot) :
    AtStatement (s :: scopes) ((st.push s).join .broken) := by
  refine atStatement_of_broken rfl (congrArg (s :: ·) h.inner)
    (List.forall_mem_cons.2 ⟨?_, h.plain⟩) hp
  constructor <;> rintro rfl <;> exact absurd hs (by decide)

theorem AtBrace.of_resembles (h : AtBrace scopes st) (hs : st.seam = .joined)
    (hr : Resembles st st') : AtBrace scopes st' := by
  have hc := h.caseHeader
  have hd := h.doClosedNext
  rw [ofState_of_joined hs] at hc hd
  obtain ⟨brackets, objectColon, ternary, previous, -, rfl⟩ := hr
  exact h.of_joined hs rfl hc hd

theorem AtStatement.of_resembles (h : AtStatement scopes st) (hs : st.seam = .joined)
    (hr : Resembles st st') (hp : st'.previous ≠ .dot) : AtStatement scopes st' := by
  have hbrace := h.toAtBrace.of_resembles hs hr
  have hb := h.blockHeader
  have hd := h.doHeader
  have hparens := h.parens
  rw [ofState_of_joined hs] at hb hd hparens
  obtain ⟨brackets, objectColon, ternary, previous, -, rfl⟩ := hr
  exact hbrace.atStatement hs hp hb hd hparens

theorem AtBrace.current (h : AtBrace scopes st) : st.scopes.current ≠ .objectList := by
  rw [Scopes.current, h.inner]
  cases scopes with
  | nil => decide
  | cons scope scopes => exact (h.plain scope List.mem_cons_self).2

/-- A condition in its parentheses. -/
theorem AtBrace.run_condition (style : Style) (h : AtBrace scopes st) (hs : st.seam = .joined)
    (hp : st.parens = 0) (c : Condition) (rest : List Lexeme) :
    ∃ st', Resembles st st' ∧ st'.previous = .closeParen ∧
      Run style (Inline st.scopes) st c.inParens rest
        (if st.line.blockHeader && !nextIn rest.head? [.openBrace] then
          (st'.push .single).join .broken else st') := by
  have hcase := h.caseHeader
  rw [ofState_of_joined hs] at hcase
  have hopen : InCondition { st with parens := st.parens + 1, previous := .openParen } :=
    ⟨hs, Nat.succ_pos _, hcase, by simp, h.current⟩
  obtain ⟨inner, hrun, hinner⟩ :=
    run_balanced style c.balanced hopen ([mark .closeParen ")"] ++ rest)
  have hseam : inner.seam = .joined := hinner.seam_eq.trans hs
  obtain ⟨brackets, objectColon, ternary, previous, -, rfl⟩ := hinner
  have hclose := run_closeParen_last style hseam (congrArg (· + 1) hp) rest
  refine ⟨_, ⟨brackets, objectColon, ternary, .closeParen, by decide, rfl⟩, rfl, ?_⟩
  have hall := (run_openParen style hs _).append (hrun.append hclose)
  rw [hp]
  exact hall

/-! ### Words -/

/-- The state after a word of a header or of a loop, on the line given. -/
def afterWord (line : Line) (st : State) : State :=
  { (Draft.ofState st).state with line, previous := .symbol }

@[simp]
theorem seam_afterWord (line : Line) (st : State) : (afterWord line st).seam = .joined :=
  seam_ofState st

@[simp]
theorem scopes_afterWord (line : Line) (st : State) : (afterWord line st).scopes = st.scopes :=
  scopes_ofState st

theorem AtStatement.atBrace_afterWord (h : AtStatement scopes st) {line : Line}
    (hc : line.caseHeader = false) : AtBrace scopes (afterWord line st) :=
  h.toAtBrace.of_joined (seam_afterWord line st) (scopes_afterWord line st) hc h.doClosedNext

/-- The condition after such a word. -/
theorem AtStatement.run_condition (style : Style) (h : AtStatement scopes st) {line : Line}
    (hc : line.caseHeader = false) (c : Condition) (rest : List Lexeme) : ∃ st',
      Run style (Inline st.scopes) (afterWord line st) c.inParens rest
        (if line.blockHeader && !nextIn rest.head? [.openBrace] then
          (st'.push .single).join .broken else st') ∧
      Resembles (afterWord line st) st' ∧ st'.previous = .closeParen := by
  obtain ⟨st', hres, hprevious, hrun⟩ :=
    (h.atBrace_afterWord hc).run_condition style (seam_afterWord line st) h.parens c rest
  rw [scopes_afterWord] at hrun
  exact ⟨st', hrun, hres, hprevious⟩

/-- A word that a block or a single statement follows. -/
theorem AtStatement.run_opening (style : Style) {w : String} (h : AtStatement scopes st)
    (hfun : w ≠ "function") (hlabel : isLabel w = false) (rest : List Lexeme)
    (hopens : opensBlock w rest.head?) :
    Run style (fun p => p.Keeps ∧ p.state.scopes = st.scopes) st [word w] rest
      { afterBlockWord w rest.head? (Draft.ofState st).state with previous := .symbol } := by
  have hr : rule style st.seam (word w) rest.head? (Draft.ofState st) =
      ((Draft.ofState st).spaceUnlessAfter [],
        afterBlockWord w rest.head? (Draft.ofState st).state) := by
    rw [rule, word]
    dsimp only
    rw [symbol_eq, functionDraft_eq hfun, labelDraft_eq hlabel]
    simp only [h.parens, hopens, and_self, if_true, Draft.state_spaceUnlessAfter]
  exact run_of_rule h.ruled hr
    ⟨Draft.Keeps.spaceUnlessAfter (.ofState st), by simp⟩

/-- The word of a header, or a do. -/
theorem AtStatement.run_word (style : Style) {w : String} (h : AtStatement scopes st)
    (hw : w ∈ "do" :: headerWords) (rest : List Lexeme) :
    Run style (fun p => p.Keeps ∧ p.state.scopes = st.scopes) st [word w] rest
      { afterBlockWord w rest.head? (Draft.ofState st).state with previous := .symbol } := by
  have hall : ∀ w ∈ "do" :: headerWords,
      w ≠ "function" ∧ isLabel w = false ∧ blockKeywords.contains w := by decide
  obtain ⟨hfun, hlabel, hblock⟩ := hall w hw
  exact h.run_opening style hfun hlabel rest (by rw [opensBlock, hblock, Bool.true_or])

/-- The word of a header opens nothing yet. A while that ends a loop never will. -/
theorem afterBlockWord_headerWords {w : String} (hw : w ∈ headerWords)
    (hn : nextIn next [.openBrace, .openParen]) : afterBlockWord w next st =
      if st.line.doClosed && w == "while" then st
      else { st with line := { st.line with blockHeader := true } } := by
  have hdo : w ≠ "do" := by
    rintro rfl
    exact absurd hw (by decide)
  simp [afterBlockWord, hdo, hn]

/-- A do opens the body of a loop, at its brace if it has one. -/
theorem afterBlockWord_do : afterBlockWord "do" next st =
    if nextIn next [.openBrace, .openParen] then
      { st with line := { st.line with doHeader := true, blockHeader := true } }
    else
      (State.push { st with line := { st.line with doHeader := true } }
        .doSingle).join .broken := by
  simp [afterBlockWord]

/-! ### Scopes -/

/-- The outermost of the single statements that end together. -/
def outermost (scopes : List Scope) : Option Scope :=
  (scopes.takeWhile Scope.isSingle).getLast?

/-- Where no single statement is innermost, there is no outermost one. -/
theorem outermost_of_settled (h : scopes.dropWhile Scope.isSingle = scopes) :
    outermost scopes = none := by
  cases scopes with
  | nil => rfl
  | cons scope scopes =>
    cases hs : scope.isSingle with
    | false => rw [outermost, List.takeWhile_cons_of_neg (by simp [hs])]; rfl
    | true =>
      have hle := (List.dropWhile_suffix (l := scopes) Scope.isSingle).length_le
      rw [List.dropWhile_cons_of_pos hs] at h
      rw [h, List.length_cons] at hle
      omega

theorem outermost_cons {scope : Scope} (h : scope.isSingle) :
    outermost (scope :: scopes) = some ((outermost scopes).getD scope) := by
  rw [outermost, List.takeWhile_cons_of_pos h, List.getLast?_cons, outermost]

/-- The scope closed last is the outermost of the single statements. -/
theorem closed_closeSingles (s : Scopes) :
    s.closeSingles.closed = (outermost s.inner).getD s.closed := by
  obtain ⟨scopes, closed⟩ := s
  rw [Scopes.closeSingles]
  induction scopes generalizing closed with
  | nil => rfl
  | cons scope scopes ih =>
    cases hs : scope.isSingle with
    | false => simp [Scopes.closeSingles.go, outermost, hs]
    | true =>
      rw [outermost_cons hs, Scopes.closeSingles.go, if_pos hs]
      exact ih scope

theorem plain_dropWhile (h : ∀ scope ∈ scopes, scope ≠ .caseBody ∧ scope ≠ .objectList) :
    ∀ scope ∈ scopes.dropWhile Scope.isSingle, scope ≠ .caseBody ∧ scope ≠ .objectList :=
  fun scope hs => h scope ((List.dropWhile_suffix _).subset hs)

/-! ### Headers -/

/-- A while that is taken for the end of a loop opens nothing, and the line goes on. -/
theorem AtStatement.run_while (style : Style) (h : AtStatement scopes st) (hs : signals st)
    (c : Condition) (rest : List Lexeme) : ∃ st₁ st',
      Run style (fun p => p.Keeps ∧ p.state.scopes = st.scopes) st [word "while"]
        (c.inParens ++ rest) st₁ ∧
      Run style (Inline st.scopes) st₁ c.inParens rest st' ∧ st'.seam = .joined ∧
      st'.scopes = st.scopes ∧ AtStatement scopes st' := by
  have hword := h.run_word style (w := "while") (by decide) (c.inParens ++ rest)
  have hopen : nextIn (c.inParens ++ rest).head? [.openBrace, .openParen] := rfl
  rw [afterBlockWord_headerWords (by decide) hopen, beq_self_eq_true, Bool.and_true, ← signals, hs,
    if_pos rfl] at hword
  obtain ⟨st', hrun, hres, hprevious⟩ := h.run_condition style h.caseHeader c rest
  rw [h.blockHeader, Bool.false_and, if_neg Bool.false_ne_true] at hrun
  have hseam := seam_afterWord (Draft.ofState st).state.line st
  have hat := (h.atBrace_afterWord h.caseHeader).atStatement hseam
    (by decide : Kind.symbol ≠ .dot) h.blockHeader h.doHeader h.parens
  exact ⟨_, st', hword, hrun, hres.seam_eq.trans hseam,
    hres.scopes_eq.trans (scopes_afterWord _ _), hat.of_resembles hseam hres (by simp [hprevious])⟩

/-- Any other word of a header opens a single statement with the end of its condition, unless
    a brace follows. -/
theorem AtStatement.run_headerWord (style : Style) {w : String} (h : AtStatement scopes st)
    (hw : w ∈ headerWords) (hs : (signals st && w == "while") = false) (c : Condition)
    (rest : List Lexeme) : ∃ st₁ st',
      Run style (fun p => p.Keeps ∧ p.state.scopes = st.scopes) st [word w]
        (c.inParens ++ rest) st₁ ∧
      Run style (Inline st.scopes) st₁ c.inParens rest
        (if nextIn rest.head? [.openBrace] then st' else (st'.push .single).join .broken) ∧
      st'.seam = .joined ∧ st'.scopes = st.scopes ∧ st'.previous = .closeParen ∧
      AtBrace scopes st' ∧ (Draft.ofState st').state.line.braceScope = .block := by
  have hword := h.run_word style (List.mem_cons_of_mem _ hw) (c.inParens ++ rest)
  have hopen : nextIn (c.inParens ++ rest).head? [.openBrace, .openParen] := rfl
  rw [afterBlockWord_headerWords hw hopen, ← signals, hs, if_neg Bool.false_ne_true] at hword
  let line : Line := { (Draft.ofState st).state.line with blockHeader := true }
  have hcase : line.caseHeader = false := h.caseHeader
  obtain ⟨st', hrun, hres, hprevious⟩ := h.run_condition style hcase c rest
  have hseam := seam_afterWord line st
  have hseam' := hres.seam_eq.trans hseam
  refine ⟨_, st', hword, ?_, hseam', hres.scopes_eq.trans (scopes_afterWord _ _),
    hprevious, (h.atBrace_afterWord hcase).of_resembles hseam hres, ?_⟩
  · cases hn : nextIn rest.head? [.openBrace] <;> rw [hn] at hrun <;> exact hrun
  · rw [ofState_of_joined hseam']
    obtain ⟨_, _, _, _, -, rfl⟩ := hres
    have hdo : line.doHeader = false := h.doHeader
    simp [Line.braceScope, afterWord, hdo, hcase]

/-- A do opens the body of a loop, with the brace if one follows. -/
theorem AtStatement.run_doWord (style : Style) (h : AtStatement scopes st) (rest : List Lexeme) :
    ∃ st', Run style (fun p => p.Keeps) st [word "do"] rest
        (if nextIn rest.head? [.openBrace, .openParen] then st'
          else (st'.push .doSingle).join .broken) ∧
      st'.previous = .symbol ∧ AtBrace scopes st' ∧
      (Draft.ofState st').state.line.braceScope = .doBlock := by
  have hword := (h.run_word style (w := "do") List.mem_cons_self rest).mono
    (Q := fun p => p.Keeps) fun _ hp => hp.1
  obtain ⟨opens, hopens⟩ : ∃ opens, nextIn rest.head? [.openBrace, .openParen] = opens := ⟨_, rfl⟩
  rw [afterBlockWord_do, hopens] at hword
  rw [hopens]
  let line : Line :=
    { (Draft.ofState st).state.line with doHeader := true, blockHeader := opens }
  have hcase : line.caseHeader = false := h.caseHeader
  refine ⟨afterWord line st, ?_, rfl, h.atBrace_afterWord hcase, ?_⟩
  · cases opens with
    | true => exact hword
    | false =>
      have hline : line = { (Draft.ofState st).state.line with doHeader := true } :=
        congrArg (fun b => { line with blockHeader := b }) h.blockHeader.symm
      rw [hline]
      exact hword
  · rw [ofState_of_joined (seam_afterWord line st)]
    rfl

/-! ### The ends of statements -/

/-- The state after a semicolon. -/
def ended (st : State) : State :=
  { (Draft.ofState st).state with
    scopes := st.scopes.closeSingles
    doClosedNext := (Draft.ofState st).state.doClosedNext || st.scopes.closeSingles.closed.isDo
    seam := .broken
    previous := .semicolon }

theorem run_semicolon (style : Style) (h : Ruled st) (hp : (Draft.ofState st).state.parens = 0)
    (hn : nextIn rest.head? [.lineComment, .inlineComment] = false) :
    Run style (fun p => p.gap = (Draft.ofState st).gap ∧ p.state.scopes = st.scopes) st
      [mark .semicolon ";"] rest (ended st) := by
  have hr : rule style st.seam (mark .semicolon ";") rest.head? (Draft.ofState st) =
      (Draft.ofState st, { ended st with previous := st.previous }) := by
    simp [rule, mark, semicolon, hp, hn, ended, State.closeSingles, State.join]
  exact run_of_rule h hr ⟨rfl, scopes_ofState st⟩

theorem AtBrace.atStatement_ended (h : AtBrace scopes st) :
    AtStatement (scopes.dropWhile Scope.isSingle) (ended st) := by
  refine atStatement_of_broken rfl ?_ (plain_dropWhile h.plain) (by decide : Kind.semicolon ≠ .dot)
  rw [← h.inner]
  exact Scopes.inner_closeSingles _

theorem AtBrace.signals_ended (h : AtBrace scopes st) :
    signals (ended st) = ((outermost scopes).getD st.scopes.closed).isDo := by
  rw [signals_of_broken rfl]
  show ((Draft.ofState st).state.doClosedNext || st.scopes.closeSingles.closed.isDo) = _
  rw [h.doClosedNext, Bool.false_or, closed_closeSingles, h.inner]

theorem AtBrace.closed_ended (h : AtBrace scopes st) :
    (ended st).scopes.closed = (outermost scopes).getD st.scopes.closed := by
  rw [← h.inner]
  exact closed_closeSingles _

/-- An operand that begins a statement. -/
theorem AtStatement.run_operand (style : Style) (h : AtStatement scopes st) (e : Operand)
    (rest : List Lexeme) :
    Run style (fun p => p.Keeps) st [e.toLexeme] rest
      { (Draft.ofState st).state with previous := e.kind } := by
  have hprevious : (Draft.ofState st).state.previous ≠ .dot := by
    rw [previous_ofState]
    exact h.previous
  exact run_of_rule h.ruled (rule_operand st.seam fun _ => hprevious)
    (Draft.Keeps.spaceUnlessAfter (.ofState st))

/-! ### Braces -/

theorem isSingle_braceScope (line : Line) : line.braceScope.isSingle = false := by
  rw [Line.braceScope]
  split
  · rfl
  · split <;> rfl

/-- A brace opens a block, which is that of a loop on the line of a do. -/
theorem AtBrace.run_openBrace (h : AtBrace scopes st) (hstyle : style.openBraceOnNewLine = false)
    (hn : nextIn rest.head? [.closeBrace] = false) :
    ∃ st', Run style (fun p => p.Keeps) st [mark .openBrace braceOpen] rest st' ∧
      AtStatement ((Draft.ofState st).state.line.braceScope :: scopes) st' ∧
      st'.seam = .broken ∧ st'.doClosedNext = false ∧ st'.scopes.closed = st.scopes.closed := by
  have hr : rule style st.seam (mark .openBrace braceOpen) rest.head? (Draft.ofState st) =
      ((Draft.ofState st).spaceUnlessAfter [.openParen, .openBracket],
        ((Draft.ofState st).state.push (Draft.ofState st).state.line.braceScope).join .broken) := by
    simp [rule, mark, openBrace, hstyle, hn]
  refine ⟨_, run_of_rule h.ruled hr (Draft.Keeps.spaceUnlessAfter (.ofState st)),
    atStatement_of_broken rfl ?_ ?_ (by decide : Kind.openBrace ≠ .dot),
    rfl, h.doClosedNext, ?_⟩
  · simp [State.push, State.join, Scopes.push, h.inner]
  · refine List.forall_mem_cons.2 ⟨?_, h.plain⟩
    rw [Line.braceScope, h.caseHeader]
    split <;> decide
  · simp [State.push, State.join, Scopes.push]

/-- The closing brace of a pair with nothing in it. -/
theorem run_closeEmptyPair (h : st.seam = .emptyPair) (hrest : Resumes rest) :
    Run style (fun p => p.Keeps) st [mark .closeBrace braceClose] rest
      { st.closeSingles.join .broken with previous := .closeBrace } := by
  have hsemicolon : nextIn rest.head? [.semicolon] = false := hrest.nextIn_eq_false (by decide)
  have hcomma : nextIn rest.head? [.comma] = false := hrest.nextIn_eq_false (by decide)
  have hp : place style st (mark .closeBrace braceClose) rest.head? =
      ⟨⟨[], false, st.join .joined⟩, braceClose,
        { st.closeSingles.join .broken with previous := .closeBrace }⟩ := by
    rw [place, Draft.ofState, h]
    simp only [closeEmptyPair, hsemicolon, hcomma, Bool.false_eq_true, if_false]
    rfl
  exact run_of_place hp (.of_gap_eq_nil rfl)

/-- A pair of braces with nothing in it opens nothing, and is not the end of a loop. -/
theorem AtBrace.run_emptyPair (h : AtBrace scopes st) (hstyle : style.openBraceOnNewLine = false)
    (hrest : Resumes rest) : ∃ st₁ st', Run style (fun p => p.Keeps) st
        [mark .openBrace braceOpen] (mark .closeBrace braceClose :: rest) st₁ ∧
      Run style (fun p => p.Keeps) st₁ [mark .closeBrace braceClose] rest st' ∧
      AtStatement (scopes.dropWhile Scope.isSingle) st' ∧ signals st' = false := by
  have hr : rule style st.seam (mark .openBrace braceOpen)
      (mark .closeBrace braceClose :: rest).head? (Draft.ofState st) =
      ((Draft.ofState st).spaceUnlessAfter [.openParen, .openBracket],
        (Draft.ofState st).state.join .emptyPair) := by
    simp [rule, mark, openBrace, hstyle, nextIn]
  have hopen := run_of_rule (P := fun p => p.Keeps) h.ruled hr
    (Draft.Keeps.spaceUnlessAfter (.ofState st))
  refine ⟨_, _, hopen, run_closeEmptyPair rfl hrest, ?_, ?_⟩
  · refine atStatement_of_broken rfl ?_ (plain_dropWhile h.plain)
      (by decide : Kind.closeBrace ≠ .dot)
    rw [← h.inner, ← scopes_ofState st]
    exact Scopes.inner_closeSingles _
  · rw [signals_of_broken rfl]
    exact h.doClosedNext

/-- A brace that closes no label. -/
theorem closeBrace_eq {d : Draft} (h : d.state.scopes.current ≠ .caseBody) : closeBrace next d =
    let d := d.update fun st => st.closeSingles.pop
    let d := if d.first then d.dedent else d.newline
    (d, afterCloseBrace next d.state) := by
  rw [closeBrace, if_neg h]

/-- What the closing brace of a block does, once the block is closed: the single statements
    around it end with it, and the line goes on if the body of a loop has been closed. -/
theorem afterCloseBrace_of_resumes (hrest : Resumes rest) : afterCloseBrace rest.head? st =
    if st.line.doClosed || ((outermost st.scopes.inner).getD st.scopes.closed).isDo then
      { st.closeSingles with line := { st.line with doClosed := true } }
    else st.closeSingles.join .broken := by
  have hnext : nextIn rest.head?
      [.semicolon, .closeParen, .closeBracket, .comma, .openParen, .colon] = false :=
    hrest.nextIn_eq_false (by decide)
  have hclosed : st.closeSingles.scopes.closed =
      (outermost st.scopes.inner).getD st.scopes.closed :=
    closed_closeSingles st.scopes
  have hline : st.closeSingles.line = st.line := rfl
  simp only [afterCloseBrace, hrest.not_continued, hnext, Bool.false_eq_true, if_false,
    Bool.false_or, hclosed]
  cases hdo : ((outermost st.scopes.inner).getD st.scopes.closed).isDo with
  | true => simp [hline]
  | false =>
    cases hdone : st.line.doClosed with
    | true =>
      have hsame : { st.line with doClosed := true } = st.line := by rw [← hdone]
      rw [hsame]
      simp [hline, hdone]
      rfl
    | false => simp [hline, hdone]

/-- The state at the beginning of the line on which a block is closed. -/
def closing (scopes : Scopes) (st : State) : State :=
  { st with
    scopes
    line := { doClosed := st.doClosedNext }
    doClosedNext := false
    parens := 0
    brackets := 0
    seam := .joined }

/-- The brace that closes a block begins a line of its own, with one level less. -/
theorem AtStatement.exists_rule_closeBrace (style : Style) {scope : Scope}
    (h : AtStatement (scope :: scopes) st) (hs : scope.isSingle = false) (next : Option Lexeme) :
    ∃ d : Draft, d.Keeps ∧
      rule style st.seam (mark .closeBrace braceClose) next (Draft.ofState st) =
        (d, afterCloseBrace next (closing ⟨scopes, scope⟩ st)) := by
  have hpop : st.scopes.closeSingles.pop = ⟨scopes, scope⟩ := by
    obtain ⟨⟨inner, last⟩, _⟩ := st
    obtain rfl : inner = scope :: scopes := h.inner
    simp [Scopes.closeSingles, Scopes.closeSingles.go, hs, Scopes.pop, Scopes.current]
  have hcurrent : st.scopes.current ≠ .caseBody := by
    rw [Scopes.current, h.inner]
    exact (h.plain scope List.mem_cons_self).1
  have hseam : st.seam = .joined ∨ st.seam = .broken := by
    have hruled := h.ruled
    simp only [Ruled, List.mem_cons, List.not_mem_nil, or_false] at hruled
    exact hruled.resolve_left fun hstart => absurd (h.start hstart) (List.cons_ne_nil _ _)
  -- The brace breaks the line, or takes back a level from the line that has been broken.
  rcases hseam with hseam | hseam
  · refine ⟨⟨[.line scopes.length], false, closing ⟨scopes, scope⟩ st⟩, .line rfl, ?_⟩
    have hnew : State.newLine { st with scopes := ⟨scopes, scope⟩ } =
        closing ⟨scopes, scope⟩ st := by
      simp [State.newLine, closing, hseam]
    rw [ofState_of_joined hseam]
    refine (closeBrace_eq hcurrent).trans ?_
    simp only [Draft.update, State.closeSingles, State.pop, hpop, Bool.false_eq_true, if_false,
      Draft.newline, hnew]
    rfl
  · refine ⟨⟨[.line (scopes.length + 1), .dedent], true, closing ⟨scopes, scope⟩ st⟩,
      .dedent rfl, ?_⟩
    have hdepth : st.scopes.depth = scopes.length + 1 := by
      rw [Scopes.depth, h.inner, List.length_cons]
    rw [ofState_of_broken hseam]
    refine (closeBrace_eq hcurrent).trans ?_
    simp only [Draft.update, State.closeSingles, State.pop, State.newLine, State.join, hpop,
      hdepth, if_true, Draft.dedent]
    rfl

/-- A brace closes a block, and the single statements around it. A while after it is taken
    for the end of a loop if the outermost of these is the body of one, or if such a body
    has been closed before the line of the brace. -/
theorem AtStatement.run_closeBrace (style : Style) {scope : Scope}
    (h : AtStatement (scope :: scopes) st) (hs : scope.isSingle = false) (hrest : Resumes rest) :
    ∃ st', Run style (fun p => p.Keeps) st [mark .closeBrace braceClose] rest st' ∧
      AtStatement (scopes.dropWhile Scope.isSingle) st' ∧
      signals st' = (((outermost scopes).getD scope).isDo || st.doClosedNext) ∧
      st'.scopes.closed = (outermost scopes).getD scope ∧
      (signals st' = false → st'.seam = .broken) := by
  obtain ⟨d, hkeeps, hr⟩ := h.exists_rule_closeBrace style hs rest.head?
  have hrun := run_of_rule (P := fun p => p.Keeps) h.ruled hr hkeeps
  rw [afterCloseBrace_of_resumes hrest] at hrun
  have hplain := plain_dropWhile fun s hs => h.plain s (.tail _ hs)
  have hinner : (Scopes.closeSingles ⟨scopes, scope⟩).inner = scopes.dropWhile Scope.isSingle :=
    Scopes.inner_closeSingles _
  have hlast : (Scopes.closeSingles ⟨scopes, scope⟩).closed = (outermost scopes).getD scope :=
    closed_closeSingles _
  have hsignal : ((closing ⟨scopes, scope⟩ st).line.doClosed ||
      ((outermost (closing ⟨scopes, scope⟩ st).scopes.inner).getD
        (closing ⟨scopes, scope⟩ st).scopes.closed).isDo) =
      (((outermost scopes).getD scope).isDo || st.doClosedNext) := Bool.or_comm _ _
  rw [hsignal] at hrun
  have hjoined : Seam.joined ≠ .start := by decide
  have hprevious : Kind.closeBrace ≠ .dot := by decide
  refine ⟨_, hrun, ?_⟩
  cases ((outermost scopes).getD scope).isDo || st.doClosedNext with
  | true =>
    rw [if_pos rfl]
    exact ⟨⟨⟨hinner, ruled_of_joined rfl, fun h => absurd h hjoined, hplain, rfl, rfl⟩,
      hprevious, rfl, rfl, rfl⟩, rfl, hlast, fun hf => absurd hf.symm Bool.false_ne_true⟩
  | false =>
    rw [if_neg Bool.false_ne_true]
    exact ⟨atStatement_of_broken rfl hinner hplain hprevious, rfl, hlast, fun _ => rfl⟩

end ScriptLayout.Loop
