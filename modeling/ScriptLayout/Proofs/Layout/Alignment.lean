import ScriptLayout.Proofs.Layout.Gap
import ScriptLayout.Proofs.Lexeme.Ending

/-!
# The indentation of a line

A line is indented for the scopes that are open where its first token stands
(`Draft.Aligned`). The levels are written with the line break, before the token is
known, and a token that closes scopes takes levels back, so that every rule has to
keep the line and the scopes in step. All rules do but two (`Askew`): a brace that
closes single statements along with its block takes back one level for all of
them, and a function after a brace on the same line breaks the line, and then
leaves the space it would have left within a line. In these cases, and in no
others, the indentation is not that of the scopes (`aligned_place_iff`).
-/

namespace ScriptLayout.Layout

variable {unit written : List Char} {style : Style} {st : State} {t : Lexeme}
  {previous next : Option Lexeme} {d : Draft} {depth : Nat}

/-! ### Scopes -/

namespace Scopes

/-- The scopes when the body of a label, if they end in one, is closed. -/
def leaveLabel (s : Scopes) : Scopes :=
  if s.current = .caseBody then s.pop else s

/-- A scope closes with the single statements in it, and the number of levels is one
    less, unless there were such statements. -/
theorem depth_pop_closeSingles_iff (s : Scopes) :
    s.closeSingles.pop.depth = s.depth - 1 ↔ ¬ (s.current.isSingle ∧ 1 < s.depth) := by
  rw [depth_pop, depth, inner_closeSingles, depth, current]
  cases s.inner with
  | nil => simp
  | cons scope inner =>
    rw [List.headD_cons, List.length_cons]
    cases hs : scope.isSingle with
    | false => simp [hs]
    | true =>
      have hle := (List.dropWhile_suffix (l := inner) Scope.isSingle).length_le
      rw [List.dropWhile_cons_of_pos hs]
      simp only [true_and]
      omega

end Scopes

/-! ### The line of a draft -/

namespace Draft

/-- The text before a token: what has been written, and the gap. -/
def before (unit written : List Char) (d : Draft) : List Char :=
  (d.gap.foldl (Mark.write unit) written).reverse

/-- The line that the token is to stand on, as far as it is written. -/
def line (unit written : List Char) (d : Draft) : List Char :=
  Text.lastLine (d.before unit written)

/-- There is nothing on the line but the indentation for the open scopes. -/
def Aligned (unit written : List Char) (d : Draft) : Prop :=
  d.line unit written = levels unit d.state.scopes.depth

/-- The line is indented for the open scopes, or something stands on it. -/
def Settled (unit written : List Char) (d : Draft) : Prop :=
  d.Aligned unit written ∨ Text.EndsVisibly (d.before unit written)

/-- What a draft is before the rule for its token is followed. -/
structure Begun (unit written : List Char) (d : Draft) : Prop where
  /-- A token that is to begin a line finds it indented. -/
  aligned : d.first = true → d.Aligned unit written
  /-- One that is not finds something on the line. -/
  visible : d.first = false → Text.EndsVisibly (d.before unit written)

theorem before_append {gap : List Mark} {d' : Draft} (h : d'.gap = d.gap ++ gap) :
    d'.before unit written =
      (gap.foldl (Mark.write unit) (d.before unit written).reverse).reverse := by
  rw [before, before, h, List.foldl_append, List.reverse_reverse]

theorem before_space : d.space.before unit written = d.before unit written ++ [' '] := by
  rw [before_append gap_space, List.foldl_cons, List.foldl_nil, Mark.write, List.reverse_cons,
    List.reverse_reverse]

theorem line_space : d.space.line unit written = d.line unit written ++ [' '] := by
  rw [line, before_space, Text.lastLine_append (by decide), line]

theorem aligned_newline (hn : '\n' ∉ unit) (written : List Char) (d : Draft) :
    d.newline.Aligned unit written := by
  rw [Aligned, line, before_append gap_newline, List.foldl_cons, List.foldl_nil, Mark.write,
    ← reverse_levels, List.reverse_append, List.reverse_reverse, List.reverse_cons,
    List.reverse_reverse, Text.lastLine_append fun hc => hn (mem_of_mem_levels hc),
    Text.lastLine_newline]
  rfl

/-- A level is taken back from the levels on a line, if there are any. -/
theorem line_dedent (hn : '\n' ∉ unit) (hne : unit ≠ [])
    (h : d.line unit written = levels unit depth) :
    d.dedent.line unit written = levels unit (depth - 1) := by
  obtain ⟨text, htext⟩ : ∃ text, text = (d.before unit written).reverse := ⟨_, rfl⟩
  rw [line, ← List.reverse_reverse (d.before unit written), ← htext] at h
  rw [line, before_append gap_dedent, List.foldl_cons, List.foldl_nil, ← htext, Mark.write]
  by_cases hp : unit.reverse <+: text
  · obtain ⟨follow, rfl⟩ := hp
    rw [if_pos (by simp), ← List.length_reverse, List.drop_left]
    rw [List.reverse_append, List.reverse_reverse, Text.lastLine_append hn] at h
    cases depth with
    | zero => exact absurd (List.append_eq_nil_iff.1 h).2 hne
    | succ depth => exact List.append_cancel_right (h.trans (levels_succ unit depth))
  · rw [if_neg (by rwa [List.isPrefixOf_iff_prefix])]
    cases depth with
    | zero => exact h
    | succ depth =>
      -- The last one of the levels is there to be taken back.
      have hlevel : unit <:+ Text.lastLine text.reverse :=
        ⟨levels unit depth, (levels_succ unit depth).symm.trans h.symm⟩
      have hsuffix : unit <:+ text.reverse := hlevel.trans (Text.lastLine_suffix _)
      exact absurd (by simpa using List.reverse_prefix.2 hsuffix) hp

theorem Aligned.dedent_pop (hn : '\n' ∉ unit) (hne : unit ≠ []) (h : d.Aligned unit written) :
    (d.dedent.update State.pop).Aligned unit written := by
  have hline := line_dedent hn hne h
  rw [← Scopes.depth_pop] at hline
  exact hline

/-! ### Within a line -/

theorem visible_space (h : Text.EndsVisibly (d.before unit written)) :
    Text.EndsVisibly (d.space.before unit written) := by
  rw [before_space]
  exact h.append_right (by decide)

theorem Begun.spaceUnlessAfter (h : d.Begun unit written) (kinds : List Kind) :
    (d.spaceUnlessAfter kinds).Begun unit written := by
  rw [Draft.spaceUnlessAfter]
  split
  · exact h
  · next hs =>
    rw [Bool.or_eq_true, not_or] at hs
    have hf : d.first = false := Bool.eq_false_iff.2 hs.1
    exact ⟨fun ht => absurd (hf.symm.trans ht) Bool.false_ne_true,
      fun _ => visible_space (h.visible hf)⟩

theorem Begun.settled (h : d.Begun unit written) : d.Settled unit written := by
  cases hf : d.first with
  | false => exact .inr (h.visible hf)
  | true => exact .inl (h.aligned hf)

/-- Whether a line is indented for the open scopes does not depend on the rest of the
    state. -/
theorem Begun.update (h : d.Begun unit written) {f : State → State}
    (hf : (f d.state).scopes = d.state.scopes) : (d.update f).Begun unit written := by
  refine ⟨fun ht => ?_, fun hl => h.visible hl⟩
  have haligned := h.aligned ht
  rw [Aligned, state_update, hf]
  exact haligned

end Draft

/-! ### The rules that keep the line and the scopes in step -/

section Rules

variable (hn : '\n' ∉ unit)
include hn

theorem settled_openBrace (style : Style) (next : Option Lexeme) (h : d.Begun unit written) :
    (openBrace style next d).1.Settled unit written := by
  rw [openBrace]
  split
  · exact .inl (Draft.aligned_newline hn written d)
  · exact (h.spaceUnlessAfter _).settled

theorem settled_openBracket (style : Style) (next : Option Lexeme) (h : d.Begun unit written) :
    (openBracket style next d).1.Settled unit written := by
  dsimp only [openBracket]
  split
  · exact .inl (Draft.aligned_newline hn written _)
  · exact (h.spaceUnlessAfter _).settled

theorem settled_comment (style : Style) (kind : Kind) (trailing : Bool)
    (h : d.Begun unit written) : (comment style kind trailing d).1.Settled unit written := by
  dsimp only [comment]
  split
  · exact h.settled
  · next hf =>
    split
    · exact .inl (Draft.aligned_newline hn written d)
    · exact .inr (Draft.visible_space (h.visible (by simpa using hf)))

theorem settled_closeBracket (hne : unit ≠ []) (h : d.Begun unit written) :
    (closeBracket d).1.Settled unit written := by
  have hupdate := h.update (f := fun st => { st with brackets := st.brackets - 1 }) rfl
  dsimp only [closeBracket]
  split
  · split
    · next hf => exact .inl ((hupdate.aligned hf).dedent_pop hn hne)
    · exact .inl (Draft.aligned_newline hn written _)
  · exact hupdate.settled

omit hn in
theorem settled_colon (h : d.Begun unit written) : (colon d).1.Settled unit written := by
  dsimp only [colon]
  split
  · exact h.settled
  · dsimp only
    split
    · next hc =>
      have hf : d.first = false := by simpa using (Bool.and_eq_true_iff.1 hc).1
      exact .inr (Draft.visible_space (h.visible hf))
    · exact h.settled

theorem Draft.Begun.labelDraft (hne : unit ≠ []) (word : String) (h : d.Begun unit written) :
    (labelDraft word d).Begun unit written := by
  rw [Layout.labelDraft]
  split
  · split
    · next hf => exact ⟨fun _ => (h.aligned hf).dedent_pop hn hne,
        fun hl => absurd (hf.symm.trans hl) (by decide)⟩
    · next hf => exact ⟨fun ht => absurd ht hf, fun hl => h.visible hl⟩
  · exact h

omit hn in
/-- A brace leaves the body of a label as another label does. -/
theorem closeBrace_fst (next : Option Lexeme) (d : Draft) : (closeBrace next d).1 =
    let d := (labelDraft "case" d).update fun st => st.closeSingles.pop
    if d.first then d.dedent else d.newline := by
  have hlabel : isLabel "case" := by decide
  simp only [closeBrace, labelDraft, hlabel, Bool.true_and, decide_eq_true_eq]
  split
  · cases hf : d.first with
    | false => simp only [hf, Draft.first_update, Bool.false_eq_true, if_false]
    | true => simp only [hf, Draft.first_update, Draft.first_dedent, if_true]; rfl
  · rfl

omit hn in
theorem scopes_labelDraft_case (d : Draft) :
    (labelDraft "case" d).state.scopes = d.state.scopes.leaveLabel := by
  have hlabel : isLabel "case" := by decide
  rw [labelDraft, Scopes.leaveLabel, hlabel, Bool.true_and]
  by_cases hc : d.state.scopes.current = .caseBody
  · rw [if_pos (decide_eq_true hc), if_pos hc]
    split <;> rfl
  · rw [if_neg (by simpa using hc), if_neg hc]

omit hn in
theorem first_labelDraft (word : String) (d : Draft) : (labelDraft word d).first = d.first := by
  rw [labelDraft]
  split
  · split <;> rfl
  · rfl

/-- A brace that is to begin a line takes back a level for its block, and none for the
    single statements that it closes. -/
theorem aligned_closeBrace_iff (hne : unit ≠ []) (next : Option Lexeme)
    (h : d.Begun unit written) (hf : d.first = true) :
    (closeBrace next d).1.Aligned unit written ↔
      ¬ (d.state.scopes.leaveLabel.current.isSingle ∧ 1 < d.state.scopes.leaveLabel.depth) := by
  have hlabel : (labelDraft "case" d).first = true := (first_labelDraft "case" d).trans hf
  have haligned := (h.labelDraft hn hne "case").aligned hlabel
  rw [Draft.Aligned, scopes_labelDraft_case] at haligned
  have hline := Draft.line_dedent (d := (labelDraft "case" d).update fun st =>
    st.closeSingles.pop) hn hne haligned
  rw [closeBrace_fst]
  dsimp only
  rw [Draft.first_update, if_pos hlabel, Draft.Aligned, hline, levels_inj hne,
    ← Scopes.depth_pop_closeSingles_iff, ← scopes_labelDraft_case, eq_comm]
  rfl

/-- A brace that is not breaks the line once all that it closes is closed. -/
theorem aligned_closeBrace (next : Option Lexeme) (hf : d.first = false) :
    (closeBrace next d).1.Aligned unit written := by
  rw [closeBrace_fst]
  dsimp only
  rw [Draft.first_update, first_labelDraft, hf, if_neg Bool.false_ne_true]
  exact Draft.aligned_newline hn written _

omit hn in
/-- A function that comes after a brace, with the line broken between them. -/
theorem symbol_function (next : Option Lexeme) (hs : style.newlineBetweenFunctions)
    (hp : d.state.previous = .closeBrace) : (symbol style "function" next d).1 =
      if d.first then d.newline else d.newline.space := by
  obtain ⟨kinds, hk, heq⟩ := exists_symbol_eq style "function" next d
  have hdraft : functionDraft style "function" d = d.newline := by
    rw [functionDraft, hs, hp, if_pos (by decide)]
  have hc : kinds.contains Kind.closeBrace = false := by
    simpa using fun hc => absurd (hk hc) (by decide)
  rw [heq, hdraft, labelDraft_of_function, Draft.spaceUnlessAfter, Draft.first_newline,
    Draft.state_newline, State.previous_newLine, hp, hc, Bool.or_false]

/-- Any other word. -/
theorem settled_symbol (hne : unit ≠ []) (word : String) (next : Option Lexeme)
    (h : d.Begun unit written) (hf : ¬ (word = "function" ∧ style.newlineBetweenFunctions ∧
      d.state.previous = .closeBrace ∧ d.first = false)) :
    (symbol style word next d).1.Settled unit written := by
  by_cases hfun : word = "function" ∧ style.newlineBetweenFunctions ∧
      d.state.previous = .closeBrace
  · obtain ⟨rfl, hs, hp⟩ := hfun
    have hfirst : d.first = true := by simpa using fun hl => hf ⟨rfl, hs, hp, hl⟩
    rw [symbol_function next hs hp, if_pos hfirst]
    exact .inl (Draft.aligned_newline hn written d)
  · obtain ⟨kinds, -, heq⟩ := exists_symbol_eq style word next d
    have hdraft : functionDraft style word d = d := by
      rw [functionDraft, if_neg]
      simpa [and_assoc] using hfun
    rw [heq, hdraft]
    exact ((h.labelDraft hn hne word).spaceUnlessAfter kinds).settled

end Rules

/-! ### All rules -/

/-- The tokens before which the line and the scopes get out of step. -/
inductive Draft.Askew (style : Style) (t : Lexeme) (d : Draft) : Prop
  /-- A brace that is to begin a line, and closes single statements with its block. -/
  | brace : t.kind = .closeBrace → d.first = true →
      d.state.scopes.leaveLabel.current.isSingle → 1 < d.state.scopes.leaveLabel.depth →
      Askew style t d
  /-- A function after a brace, on its line, that the line is to be broken before. -/
  | function : t.isWord "function" → style.newlineBetweenFunctions →
      d.state.previous = .closeBrace → d.first = false → Askew style t d

variable (hn : '\n' ∉ unit) (hne : unit ≠ [])
include hn hne

/-- Every rule keeps the line and the scopes in step otherwise. -/
theorem settled_rule (style : Style) (seam : Seam) (next : Option Lexeme)
    (h : d.Begun unit written) (ha : ¬ d.Askew style t) :
    (rule style seam t next d).1.Settled unit written := by
  rw [rule]
  cases hk : t.kind with
  | openBrace => exact settled_openBrace hn style next h
  | closeBrace =>
    cases hf : d.first with
    | false => exact .inl (aligned_closeBrace hn next hf)
    | true =>
      refine .inl ((aligned_closeBrace_iff hn hne next h hf).2 fun hs => ha ?_)
      exact .brace hk hf hs.1 hs.2
  | openParen => exact (h.spaceUnlessAfter _).settled
  | openBracket => exact settled_openBracket hn style next h
  | closeBracket => exact settled_closeBracket hn hne h
  | symbol =>
    refine settled_symbol hn hne t.text next h fun hf => ha ?_
    exact .function (by simp [Lexeme.isWord, hk, hf.1]) hf.2.1 hf.2.2.1 hf.2.2.2
  | string | number | regex | binaryOperator | unaryPrefix =>
    exact (h.spaceUnlessAfter _).settled
  | colon => exact settled_colon h
  | questionMark =>
    have hupdate := h.update
      (f := fun st => { st with line := { st.line with ternary := true } }) rfl
    exact (hupdate.spaceUnlessAfter _).settled
  | lineComment | inlineComment => exact settled_comment hn style _ _ h
  | semicolon =>
    dsimp only [semicolon]
    split <;> exact h.settled
  | closeParen | comma | dot | unarySuffix | unknown => exact h.settled

/-- The tokens before which the line and the scopes get out of step are not indented for
    the scopes. -/
theorem not_aligned_rule (style : Style) (seam : Seam) (next : Option Lexeme)
    (h : d.Begun unit written) (ha : d.Askew style t) :
    ¬ (rule style seam t next d).1.Aligned unit written := by
  rw [rule]
  cases ha with
  | brace hk hf hs hd =>
    rw [hk]
    exact fun haligned => (aligned_closeBrace_iff hn hne next h hf).1 haligned ⟨hs, hd⟩
  | function hw hs hp hf =>
    rw [Lexeme.isWord, Bool.and_eq_true, beq_iff_eq, beq_iff_eq] at hw
    obtain ⟨hk, hword⟩ := hw
    simp only [hk, hword]
    rw [symbol_function next hs hp, if_neg (by simp [hf])]
    intro haligned
    have hline : d.newline.line unit written = levels unit d.state.scopes.depth :=
      Draft.aligned_newline hn written d
    rw [Draft.Aligned, Draft.line_space, hline] at haligned
    exact absurd (List.append_right_eq_self.1 haligned) (by decide)

/-! ### All tokens -/

omit hne in
/-- The text before a token, up to the gap that the seam calls for. -/
theorem begun_ofState (h : Fits st previous t) (hw : previous = none → written = [])
    (hv : ∀ p ∈ previous, Text.EndsVisibly written.reverse) :
    (Draft.ofState st).Begun unit written := by
  have hwithin {p : Lexeme} (hp : previous = some p) (hs : st.seam ≠ .start)
      (hb : st.seam ≠ .broken) : (Draft.ofState st).Begun unit written := by
    rw [Draft.ofState_of_within st hs hb]
    exact ⟨fun hf => absurd hf Bool.false_ne_true, fun _ => hv p hp⟩
  cases h with
  | start =>
    obtain rfl := hw rfl
    exact ⟨fun _ => rfl, fun hf => absurd hf (by decide)⟩
  | broken hs =>
    rw [Draft.ofState_of_broken hs]
    exact ⟨fun _ => Draft.aligned_newline hn written _, fun hf => absurd hf (by simp)⟩
  | joined hs | remark hs | emptyPair hs | emptyItem hs =>
    exact hwithin rfl (by rw [hs]; decide) (by rw [hs]; decide)

omit hn hne in
/-- The gap before a token is that of its rule, or the one that the seam calls for, if
    the seam overrides the rule. -/
theorem toDraft_place (style : Style) (next : Option Lexeme) (h : Fits st previous t) :
    (place style st t next).toDraft = (rule style st.seam t next (.ofState st)).1 ∨
      (place style st t next).toDraft = .ofState st ∧ ¬ (Draft.ofState st).Askew style t := by
  have hwithin (hs : st.seam ≠ .start) (hb : st.seam ≠ .broken) (hk : t.kind ≠ .symbol) :
      ¬ (Draft.ofState st).Askew style t := by
    rw [Draft.ofState_of_within st hs hb]
    intro ha
    cases ha with
    | brace _ hf => exact absurd hf Bool.false_ne_true
    | function hw => exact hk (beq_iff_eq.1 (Bool.and_eq_true_iff.1 hw).1)
  rw [place]
  cases h with
  | start => exact .inl rfl
  | broken hs | joined hs | remark hs => exact .inl (by rw [hs])
  | emptyPair hs _ _ hk | emptyItem hs _ _ hk =>
    refine .inr ⟨?_, hwithin ?_ ?_ ?_⟩
    · simp only [hs, closeEmptyPair]
    · rw [hs]; decide
    · rw [hs]; decide
    · rw [hk]; decide

/-- A token at the beginning of a line is indented for the open scopes, unless it is one
    of those before which the line and the scopes get out of step. -/
theorem aligned_place_iff (style : Style) (next : Option Lexeme) (h : Fits st previous t)
    (hw : previous = none → written = [])
    (hv : ∀ p ∈ previous, Text.EndsVisibly written.reverse)
    (hb : ∀ c ∈ (place style st t next).line unit written, Text.isBlank c) :
    (place style st t next).Aligned unit written ↔ ¬ (Draft.ofState st).Askew style t := by
  have hbegun := begun_ofState hn h hw hv
  refine ⟨fun haligned ha => ?_, fun ha => ?_⟩
  · rcases toDraft_place style next h with heq | ⟨-, hnot⟩
    · rw [heq] at haligned
      exact not_aligned_rule hn hne style _ next hbegun ha haligned
    · exact hnot ha
  · have hsettled : (place style st t next).Settled unit written := by
      rcases toDraft_place style next h with heq | ⟨heq, -⟩
      · rw [heq]
        exact settled_rule hn hne style _ next hbegun ha
      · rw [heq]
        exact hbegun.settled
    refine hsettled.resolve_right ?_
    rintro ⟨c, hc, hvisible⟩
    exact absurd (hb c hc) (by simp [hvisible])

end ScriptLayout.Layout
