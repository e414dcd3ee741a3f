import ScriptLayout.Layout.Place
import ScriptLayout.Proofs.Layout.Spelling
import ScriptLayout.Proofs.Lexeme.Fusion

/-!
# The gap before a token

What a layout may leave between two tokens. The seam of the state says how the
next token joins the text; every token leaves a seam that fits it and the one
after it (`Fits`, `fits_place`). Where the seam fits, the gap that is left
is empty or a space or a line break within the line, or else a line break with
levels taken back from it (`gapped_place`), whatever the rule for the token is.
-/

namespace ScriptLayout.Layout

variable {style : Style} {st : State} {t : Lexeme} {previous next : Option Lexeme} {d d' : Draft}

/-- The innermost single statements end together. -/
theorem Scopes.inner_closeSingles (s : Scopes) :
    s.closeSingles.inner = s.inner.dropWhile Scope.isSingle := by
  obtain ⟨scopes, closed⟩ := s
  rw [Scopes.closeSingles]
  induction scopes generalizing closed with
  | nil => rfl
  | cons scope scopes ih =>
    cases hs : scope.isSingle with
    | false => simp [Scopes.closeSingles.go, hs]
    | true => simpa [Scopes.closeSingles.go, hs] using ih scope

/-! ### The parts of a draft -/

section Draft

variable {f : State → State} {kinds : List Kind}

@[simp] theorem Draft.gap_newline : d.newline.gap = d.gap ++ [.line d.state.scopes.depth] := rfl
@[simp] theorem Draft.first_newline : d.newline.first = d.first := rfl
@[simp] theorem Draft.state_newline : d.newline.state = d.state.newLine := rfl
@[simp] theorem Draft.gap_space : d.space.gap = d.gap ++ [.space] := rfl
@[simp] theorem Draft.first_space : d.space.first = d.first := rfl
@[simp] theorem Draft.state_space : d.space.state = d.state := rfl
@[simp] theorem Draft.gap_dedent : d.dedent.gap = d.gap ++ [.dedent] := rfl
@[simp] theorem Draft.first_dedent : d.dedent.first = d.first := rfl
@[simp] theorem Draft.state_dedent : d.dedent.state = d.state := rfl
@[simp] theorem Draft.gap_update : (d.update f).gap = d.gap := rfl
@[simp] theorem Draft.first_update : (d.update f).first = d.first := rfl
@[simp] theorem Draft.state_update : (d.update f).state = f d.state := rfl

@[simp] theorem State.previous_newLine : st.newLine.previous = st.previous := rfl
@[simp] theorem State.previous_pop : st.pop.previous = st.previous := rfl
@[simp] theorem State.seam_newLine : st.newLine.seam = st.seam := rfl
@[simp] theorem State.seam_push {scope : Scope} : (st.push scope).seam = st.seam := rfl
@[simp] theorem State.seam_pop : st.pop.seam = st.seam := rfl
@[simp] theorem State.seam_closeSingles : st.closeSingles.seam = st.seam := rfl
@[simp] theorem State.seam_join {seam : Seam} : (st.join seam).seam = seam := rfl

theorem Draft.ofState_of_broken (h : st.seam = .broken) :
    Draft.ofState st = .newline ⟨[], true, st.join .joined⟩ := by
  rw [ofState, h]

theorem Draft.ofState_of_within (st : State) (h : st.seam ≠ .start) (h' : st.seam ≠ .broken) :
    Draft.ofState st = ⟨[], false, st.join .joined⟩ := by
  rw [ofState]
  split <;> first | rfl | contradiction

theorem Draft.gap_spaceUnlessAfter : (d.spaceUnlessAfter kinds).gap =
    d.gap ++ if d.first || kinds.contains d.state.previous then [] else [.space] := by
  rw [spaceUnlessAfter]
  split <;> simp

@[simp] theorem Draft.state_spaceUnlessAfter : (d.spaceUnlessAfter kinds).state = d.state := by
  rw [spaceUnlessAfter]
  split <;> rfl

end Draft

/-! ### What the rules add to the gap -/

/-- What a rule may add to the gap before a token: a few marks within a line,
    or, at the beginning of one, levels taken back. -/
inductive Added (first : Bool) (previous : Kind) (t : Lexeme) : List Mark → Prop
  | nothing : first = false → previous.touches t.kind → Added first previous t []
  | within {gap : List Mark} : first = false → gap ≠ [] → .dedent ∉ gap →
      gap.countP Mark.isLine ≤ 1 → Added first previous t gap
  | dedents (n : Nat) : first = true → Added first previous t (List.replicate n .dedent)
  | functionLine (depth : Nat) : first = true → previous = .closeBrace → t.isWord "function" →
      Added first previous t [.line depth]

/-- The draft `d'` comes from `d` by what a rule may add before the token `t`. -/
def Draft.Extends (t : Lexeme) (d d' : Draft) : Prop :=
  ∃ added, d'.gap = d.gap ++ added ∧ Added d.first d.state.previous t added

namespace Draft.Extends

theorem refl (h : d.first = false → d.state.previous.touches t.kind) : d.Extends t d := by
  refine ⟨[], (List.append_nil _).symm, ?_⟩
  cases hf : d.first with
  | false => exact .nothing rfl (h hf)
  | true => exact .dedents 0 rfl

theorem space (h : d.first = false) : d.Extends t d.space :=
  ⟨[.space], rfl, .within h (by decide) (by decide) (by decide)⟩

theorem newline (h : d.first = false) : d.Extends t d.newline :=
  ⟨[.line _], rfl, .within h (by simp) (by simp) (by simp [Mark.isLine])⟩

/-- Only the gap of the later draft matters. -/
theorem of_gap_eq {d'' : Draft} (h : d.Extends t d') (hg : d''.gap = d'.gap) : d.Extends t d'' :=
  h.imp fun _ h => ⟨hg.trans h.1, h.2⟩

theorem spaceUnlessAfter {kinds : List Kind}
    (h : d.state.previous ∈ kinds → d.state.previous.touches t.kind) :
    d.Extends t (d.spaceUnlessAfter kinds) := by
  rw [Draft.spaceUnlessAfter]
  split
  · next hk => exact refl fun hf => h (by simpa [hf] using hk)
  · next hk => exact space (by simp at hk; exact hk.1)

end Draft.Extends

theorem extends_openBrace (h : t.kind = .openBrace) :
    d.Extends t (openBrace style next d).1 := by
  rw [openBrace]
  split
  · next hn => exact Draft.Extends.newline (by simpa using (Bool.and_eq_true_iff.1 hn).2)
  · exact Draft.Extends.spaceUnlessAfter fun hk => by simpa [h, Kind.touches] using hk

theorem extends_closeBrace (t : Lexeme) (next : Option Lexeme) (d : Draft) :
    d.Extends t (closeBrace next d).1 := by
  rw [closeBrace]
  cases hf : d.first with
  | false =>
    split <;> simp only [Draft.update, hf, Bool.false_eq_true, if_false] <;>
      exact ⟨[.line _], rfl, .within hf (by simp) (by simp) (by simp [Mark.isLine])⟩
  | true =>
    split <;> simp only [Draft.update, Draft.dedent, hf, if_true]
    · exact ⟨[.dedent, .dedent], List.append_assoc .., .dedents 2 hf⟩
    · exact ⟨[.dedent], rfl, .dedents 1 hf⟩

theorem extends_openParen (h : t.kind = .openParen) : d.Extends t (openParen d).1 := by
  refine Draft.Extends.spaceUnlessAfter fun hk => ?_
  split at hk <;> cases hp : d.state.previous <;> simp [hp, h, Kind.touches] at hk ⊢

theorem extends_openBracket (h : t.kind = .openBracket)
    (hd : d.first = true → d.state.line.objectColon = false) :
    d.Extends t (openBracket style next d).1 := by
  -- A list of objects is the value of a key, so that its bracket does not begin a line.
  dsimp only [openBracket]
  have hspace : d.Extends t
      (d.spaceUnlessAfter [.symbol, .openParen, .closeParen, .closeBracket]) :=
    .spaceUnlessAfter fun hk => by simpa [h, Kind.touches] using hk
  split
  · next hn =>
    have hf : d.first = false := Bool.eq_false_iff.2 fun hf => by simp [hd hf] at hn
    rw [Draft.spaceUnlessAfter]
    split
    · exact .newline hf
    · exact ⟨[.space, .line _], List.append_assoc ..,
        .within hf (by simp) (by simp) (by simp [Mark.isLine])⟩
  · exact hspace

theorem extends_closeBracket (h : t.kind = .closeBracket) : d.Extends t (closeBracket d).1 := by
  dsimp only [closeBracket]
  split
  · cases hf : d.first with
    | false =>
      exact ⟨[.line _], by simp [hf]; rfl,
        .within hf (by simp) (by simp) (by simp [Mark.isLine])⟩
    | true => exact ⟨[.dedent], by simp [hf], .dedents 1 hf⟩
  · have hself : d.Extends t d := .refl fun _ => by simp [h, Kind.touches]
    exact hself.of_gap_eq rfl

/-- The draft of a word once a line is broken before a function. -/
def functionDraft (style : Style) (word : String) (d : Draft) : Draft :=
  if word == "function" && style.newlineBetweenFunctions && d.state.previous == .closeBrace then
    d.newline
  else d

/-- The draft of a word once the body of the label before it is closed. -/
def labelDraft (word : String) (d : Draft) : Draft :=
  if isLabel word && d.state.scopes.current = .caseBody then
    (if d.first then d.dedent else d).update State.pop
  else d

/-- A word is placed once its line and the scope of its label are settled. -/
theorem symbol_eq (style : Style) (word : String) (next : Option Lexeme) (d : Draft) :
    symbol style word next d =
      let d := labelDraft word (functionDraft style word d)
      if d.state.parens = 0 ∧ opensBlock word next then
        let d := d.spaceUnlessAfter []
        (d, afterBlockWord word next d.state)
      else
        let d := d.spaceUnlessAfter [.openParen, .openBracket, .unaryPrefix, .dot]
        (d, if isLabel word then { d.state with line := { d.state.line with caseHeader := true } }
          else d.state) := rfl

theorem labelDraft_of_function (d : Draft) : labelDraft "function" d = d :=
  if_neg (by simp [isLabel])

/-- What a word leaves within a line is a space, if anything. -/
theorem exists_symbol_eq (style : Style) (word : String) (next : Option Lexeme) (d : Draft) :
    ∃ kinds ⊆ [.openParen, .openBracket, .unaryPrefix, .dot], (symbol style word next d).1 =
      (labelDraft word (functionDraft style word d)).spaceUnlessAfter kinds := by
  rw [symbol_eq]
  dsimp only
  split
  · exact ⟨[], List.nil_subset _, rfl⟩
  · exact ⟨_, List.Subset.refl _, rfl⟩

theorem extends_symbol (h : t.kind = .symbol) : d.Extends t (symbol style t.text next d).1 := by
  obtain ⟨kinds, hk, heq⟩ := exists_symbol_eq style t.text next d
  have htouches : d.state.previous ∈ kinds → d.state.previous.touches t.kind :=
    fun hc => by simpa [h, Kind.touches] using hk hc
  rw [heq]
  rw [functionDraft]
  split
  · next hfun =>
    simp only [Bool.and_eq_true, beq_iff_eq] at hfun
    obtain ⟨⟨hword, -⟩, hprev⟩ := hfun
    rw [hword, labelDraft_of_function]
    -- No space follows the line break, or one line break follows the other.
    have hc : kinds.contains Kind.closeBrace = false := by
      simpa using fun hc => by simpa using hk hc
    refine ⟨_, Draft.gap_spaceUnlessAfter.trans (List.append_assoc ..), ?_⟩
    rw [Draft.first_newline, Draft.state_newline, State.previous_newLine, hprev, hc]
    cases hf : d.first with
    | false => exact .within rfl (by simp) (by simp) (by simp [List.countP_cons, Mark.isLine])
    | true => exact .functionLine _ rfl rfl (by simp [Lexeme.isWord, h, hword])
  · rw [labelDraft]
    split
    · cases hf : d.first with
      | false =>
        exact .of_gap_eq (.spaceUnlessAfter htouches) (by simp [Draft.gap_spaceUnlessAfter, hf])
      | true => exact ⟨[.dedent], by simp [Draft.gap_spaceUnlessAfter, hf], .dedents 1 hf⟩
    · exact .spaceUnlessAfter htouches

theorem extends_operand
    (h : t.kind ∈ [.string, .number, .regex, .binaryOperator, .unaryPrefix]) :
    d.Extends t (operand d).1 := by
  refine Draft.Extends.spaceUnlessAfter fun hk => ?_
  cases ht : t.kind <;> simp [ht, Kind.touches] at h hk ⊢ <;> exact hk

theorem extends_colon (h : t.kind = .colon) : d.Extends t (colon d).1 := by
  have hself : d.Extends t d := .refl fun _ => by simp [h, Kind.touches]
  dsimp only [colon]
  split
  · exact hself
  · dsimp only
    split
    · next hc => exact .space (by simp at hc; exact hc.1)
    · exact hself

theorem extends_questionMark (t : Lexeme) (d : Draft) : d.Extends t (questionMark d).1 :=
  Draft.Extends.spaceUnlessAfter (d := d.update _) fun hk => absurd hk List.not_mem_nil

theorem extends_comment (style : Style) (kind : Kind) (trailing : Bool) (t : Lexeme) (d : Draft) :
    d.Extends t (comment style kind trailing d).1 := by
  dsimp only [comment]
  split
  · next hf => exact ⟨[], by simp, .dedents 0 hf⟩
  · next hf =>
    split
    · exact .newline (by simpa using hf)
    · exact .space (by simpa using hf)

/-- No rule adds to the gap what it may not. At the beginning of a line, no key
    stands on it. -/
theorem extends_rule (style : Style) (seam : Seam) (t : Lexeme) (next : Option Lexeme)
    (hd : d.first = true → d.state.line.objectColon = false) :
    d.Extends t (rule style seam t next d).1 := by
  have hself (h : ∀ k : Kind, k.touches t.kind) : d.Extends t d := .refl fun _ => h _
  rw [rule]
  cases hk : t.kind with
  | openBrace => exact extends_openBrace hk
  | closeBrace => exact extends_closeBrace t next d
  | openParen => exact extends_openParen hk
  | openBracket => exact extends_openBracket hk hd
  | closeBracket => exact extends_closeBracket hk
  | symbol => exact extends_symbol hk
  | string | number | regex | binaryOperator | unaryPrefix => exact extends_operand (by simp [hk])
  | colon => exact extends_colon hk
  | questionMark => exact extends_questionMark t d
  | lineComment | inlineComment => exact extends_comment style _ _ t d
  | semicolon =>
    refine (hself fun k => by rw [hk]; rfl).of_gap_eq ?_
    dsimp only [semicolon]
    split <;> rfl
  | closeParen | comma | dot | unarySuffix | unknown => exact hself fun k => by rw [hk]; rfl

/-! ### The seams between tokens -/

/-- The state fits the token to be placed and the one before it: what the seam
    says of them is so. -/
inductive Fits : State → Option Lexeme → Lexeme → Prop
  | start (t : Lexeme) : Fits {} none t
  | broken {st : State} {p t : Lexeme} : st.seam = .broken → st.previous = p.kind →
      Fits st (some p) t
  | joined {st : State} {p t : Lexeme} : st.seam = .joined → st.previous = p.kind →
      p.kind ≠ .lineComment → Fits st (some p) t
  | remark {st : State} {p t : Lexeme} : st.seam = .remark → st.previous = p.kind →
      p.kind = .semicolon → t.kind.isComment → Fits st (some p) t
  | emptyPair {st : State} {p t : Lexeme} : st.seam = .emptyPair → st.previous = p.kind →
      p.kind = .openBrace → t.kind = .closeBrace → Fits st (some p) t
  | emptyItem {st : State} {p t : Lexeme} : st.seam = .emptyItem → st.previous = p.kind →
      p.kind = .closeBrace → t.kind = .comma → Fits st (some p) t

theorem seam_functionDraft (style : Style) (word : String) (d : Draft) :
    (functionDraft style word d).state.seam = d.state.seam := by
  rw [functionDraft]
  split <;> rfl

theorem seam_labelDraft (word : String) (d : Draft) :
    (labelDraft word d).state.seam = d.state.seam := by
  rw [labelDraft]
  split
  · split <;> rfl
  · rfl

theorem seam_afterCloseBrace (next : Option Lexeme) (st : State) :
    (afterCloseBrace next st).seam = .broken ∨ (afterCloseBrace next st).seam = st.seam := by
  dsimp only [afterCloseBrace]
  split <;> split <;> split <;> first | exact .inl rfl | exact .inr rfl

theorem seam_afterBlockWord (word : String) (next : Option Lexeme) (st : State) :
    (afterBlockWord word next st).seam = .broken ∨
      (afterBlockWord word next st).seam = st.seam := by
  dsimp only [afterBlockWord]
  split
  · exact .inr rfl
  · split
    · refine .inr ?_
      split <;> rfl
    · exact .inl rfl

/-- The seam that a rule leaves: the line goes on or ends, but for an empty pair
    of braces and a trailing comment. -/
theorem seam_rule (style : Style) (seam : Seam) (t : Lexeme) (next : Option Lexeme)
    (hd : d.state.seam = .joined) :
    (rule style seam t next d).2.seam = .broken ∨
      (rule style seam t next d).2.seam = .joined ∧ t.kind ≠ .lineComment ∨
      (rule style seam t next d).2.seam = .remark ∧ t.kind = .semicolon ∧
        nextIn next [.lineComment, .inlineComment] ∨
      (rule style seam t next d).2.seam = .emptyPair ∧ t.kind = .openBrace ∧
        nextIn next [.closeBrace] := by
  rw [rule]
  cases hk : t.kind with
  | openBrace =>
    dsimp only [openBrace]
    split
    · next hn => exact .inr (.inr (.inr ⟨rfl, rfl, hn⟩))
    · exact .inl rfl
  | closeBrace =>
    have hstate : (closeBrace next d).1.state.seam = .joined := by
      simp only [closeBrace, apply_ite Draft.state, apply_ite State.seam, Draft.state_update,
        Draft.state_dedent, Draft.state_newline, State.seam_newLine, State.seam_pop,
        State.seam_closeSingles, hd, ite_self]
    rcases seam_afterCloseBrace next (closeBrace next d).1.state with h | h
    · exact .inl h
    · exact .inr (.inl ⟨h.trans hstate, by decide⟩)
  | symbol =>
    have hstate : (labelDraft t.text (functionDraft style t.text d)).state.seam = .joined :=
      (seam_labelDraft ..).trans ((seam_functionDraft ..).trans hd)
    rw [symbol_eq]
    dsimp only
    split
    · rw [Draft.state_spaceUnlessAfter]
      rcases seam_afterBlockWord t.text next
        (labelDraft t.text (functionDraft style t.text d)).state with h | h
      · exact .inl h
      · exact .inr (.inl ⟨h.trans hstate, by decide⟩)
    · refine .inr (.inl ⟨?_, by decide⟩)
      split <;> rw [Draft.state_spaceUnlessAfter] <;> exact hstate
  | closeParen => dsimp only [closeParen]; split <;> simp [hd]
  | openBracket =>
    dsimp only [openBracket]
    split <;> simp [apply_ite Draft.state, apply_ite State.seam, hd]
  | closeBracket => dsimp only [closeBracket]; split <;> (try split) <;> simp [hd]
  | colon => dsimp only [colon]; split <;> (try split) <;> simp [apply_ite State.seam, hd]
  | lineComment => exact .inl (by simp [comment])
  | inlineComment =>
    dsimp only [comment]
    split
    · exact .inl rfl
    · exact .inr (.inl ⟨by simp [apply_ite Draft.state, apply_ite State.seam, hd], by decide⟩)
  | semicolon => dsimp only [semicolon]; split <;> (try split) <;> simp [*]
  | comma => dsimp only [comma]; split <;> simp [hd]
  | openParen | questionMark | string | number | regex | binaryOperator | unaryPrefix =>
    simp [openParen, operand, questionMark, hd]
  | dot | unarySuffix | unknown => simp [hd]

/-- Every token leaves a state that fits it and the next one. -/
theorem fits_place (style : Style) {t' : Lexeme} (h : Fits st previous t) :
    Fits (place style st t (some t')).after (some t) t' := by
  have hrule (seam : Seam) : Fits { (rule style seam t (some t') (.ofState st)).2 with
      previous := t.kind } (some t) t' := by
    have hd : (Draft.ofState st).state.seam = .joined := by
      rw [Draft.ofState]
      split <;> rfl
    rcases seam_rule style seam t (some t') hd with h | ⟨h, hk⟩ | ⟨h, hk, hn⟩ | ⟨h, hk, hn⟩
    · exact .broken h rfl
    · exact .joined h rfl hk
    · refine .remark h rfl hk ?_
      have hcomment : t'.kind = .lineComment ∨ t'.kind = .inlineComment := by
        simpa [nextIn] using hn
      rcases hcomment with h | h <;> rw [h] <;> rfl
    · exact .emptyPair h rfl hk (by simpa [nextIn] using hn)
  -- Only in an empty pair, and after one, does the seam override the rule.
  rw [place]
  cases h with
  | start => exact hrule _
  | broken hs => rw [hs]; exact hrule _
  | joined hs => rw [hs]; exact hrule _
  | remark hs => rw [hs]; exact hrule _
  | emptyPair hs hp hk hk' =>
    rw [hs]
    dsimp only [closeEmptyPair]
    split
    · exact .joined (by simp [Draft.ofState, hs]) rfl (by simp [hk'])
    · split
      · next hn => exact .emptyItem rfl rfl hk' (by simpa [nextIn] using hn)
      · exact .broken rfl rfl
  | emptyItem hs hp hk hk' =>
    rw [hs]
    exact .joined rfl rfl (by simp [hk'])

/-! ### The gap that is left -/

/-- The gaps before a token: there are levels taken back before the first one,
    and between two, a few marks within a line, or the end of it. -/
inductive Gapped : Option Lexeme → Lexeme → List Mark → Prop
  | start (t : Lexeme) (n : Nat) : Gapped none t (List.replicate n .dedent)
  | touching {p t : Lexeme} : p.kind ≠ .lineComment → p.kind.touches t.kind → Gapped (some p) t []
  | within {p t : Lexeme} {gap : List Mark} : p.kind ≠ .lineComment → gap ≠ [] → .dedent ∉ gap →
      gap.countP Mark.isLine ≤ 1 → Gapped (some p) t gap
  | line (p t : Lexeme) (depth n : Nat) :
      Gapped (some p) t (.line depth :: List.replicate n .dedent)
  | lines {p t : Lexeme} (depth depth' : Nat) : p.kind = .closeBrace → t.isWord "function" →
      Gapped (some p) t [.line depth, .line depth']

theorem Added.gapped_within {p : Lexeme} {added : List Mark} (h : Added false p.kind t added)
    (hp : p.kind ≠ .lineComment) : Gapped (some p) t added := by
  cases h with
  | nothing _ ht => exact .touching hp ht
  | within _ hne hd hl => exact .within hp hne hd hl
  | dedents _ hf | functionLine _ hf => exact absurd hf Bool.false_ne_true

theorem Added.gapped_line {p : Lexeme} {added : List Mark} (h : Added true p.kind t added)
    (depth : Nat) : Gapped (some p) t (.line depth :: added) := by
  cases h with
  | nothing hf | within hf => exact absurd hf.symm Bool.false_ne_true
  | dedents n => exact .line p t depth n
  | functionLine depth' _ hk hw => exact .lines depth depth' hk hw

/-- The gap before a token is such a gap. -/
theorem gapped_place (style : Style) (next : Option Lexeme) (h : Fits st previous t) :
    Gapped previous t (place style st t next).gap := by
  -- On a line, the gap is what the rule adds; at the beginning of one, a line
  -- break comes before that.
  have hrule (seam : Seam) {p : Lexeme} (hs : st.seam ≠ .start) (hb : st.seam ≠ .broken)
      (hp : st.previous = p.kind) (hk : p.kind ≠ .lineComment) :
      Gapped (some p) t (rule style seam t next (.ofState st)).1.gap := by
    rw [Draft.ofState_of_within st hs hb]
    obtain ⟨added, hg, ha⟩ := extends_rule (d := ⟨[], false, st.join .joined⟩) style seam t next
      fun hf => absurd hf Bool.false_ne_true
    rw [hg]
    exact Added.gapped_within (hp ▸ ha) hk
  rw [place]
  cases h with
  | start =>
    obtain ⟨added, hg, ha⟩ := extends_rule (d := .ofState {}) style .start t next fun _ => rfl
    simp only [hg]
    cases ha with
    | nothing hf | within hf => exact absurd hf.symm Bool.false_ne_true
    | dedents n => exact .start t n
    | functionLine _ _ hk => exact absurd hk (by decide)
  | broken hs hp =>
    have hd := Draft.ofState_of_broken hs
    obtain ⟨added, hg, ha⟩ := extends_rule (d := .ofState st) style .broken t next fun _ => by
      rw [hd]; rfl
    rw [hs]
    simp only [hg]
    rw [hd] at ha ⊢
    exact Added.gapped_line (hp ▸ ha) _
  | joined hs hp hk => rw [hs]; exact hrule _ (by rw [hs]; decide) (by rw [hs]; decide) hp hk
  | remark hs hp hk =>
    rw [hs]
    exact hrule _ (by rw [hs]; decide) (by rw [hs]; decide) hp (by rw [hk]; decide)
  | emptyPair hs _ hk hk' =>
    have hd := Draft.ofState_of_within st (by rw [hs]; decide) (by rw [hs]; decide)
    simp only [hs, closeEmptyPair, hd]
    exact .touching (by rw [hk]; decide) (by rw [hk']; rfl)
  | emptyItem hs _ hk hk' =>
    have hd := Draft.ofState_of_within st (by rw [hs]; decide) (by rw [hs]; decide)
    simp only [hs, hd]
    exact .touching (by rw [hk]; decide) (by rw [hk']; rfl)

/-- Where lexemes fuse, the first is an operand or a prefix, and leaves the line
    as it is. -/
theorem seam_place_of_fuses (style : Style) {p : Lexeme} (h : Fits st previous p)
    (hf : p.fuses t) : (place style st p (some t)).after.seam = .joined := by
  have hk : p.kind ∈ [.regex, .number, .unaryPrefix] := by
    rw [Lexeme.fuses] at hf
    split at hf <;> simp_all
  have hrule (seam : Seam) : (rule style seam p (some t) (.ofState st)).2.seam = .joined := by
    have hs : (Draft.ofState st).state.seam = .joined := by
      rw [Draft.ofState]
      split <;> rfl
    rw [rule]
    simp only [List.mem_cons, List.not_mem_nil, or_false] at hk
    rcases hk with hk | hk | hk <;> rw [hk] <;> simp [operand, hs]
  rw [place]
  cases h with
  | start => exact hrule _
  | broken hs | joined hs | remark hs => rw [hs]; exact hrule _
  | emptyPair _ _ _ hk' | emptyItem _ _ _ hk' => simp [hk'] at hk

/-- Where lexemes fuse, nothing is left between them. -/
theorem gap_place_of_fuses (style : Style) (next : Option Lexeme) {p : Lexeme}
    (hs : st.seam = .joined) (hp : st.previous = p.kind) (hf : p.fuses t) :
    (place style st t next).gap = [] := by
  have hd := Draft.ofState_of_within st (by rw [hs]; decide) (by rw [hs]; decide)
  unfold place Lexeme.fuses at *
  rw [hs]
  split at hf
  · next hk => simp [rule, hk, hd]
  · next hk => simp [rule, hk, hd]
  · next hk hk' => simp [rule, hk', hd, operand, Draft.spaceUnlessAfter, hp, hk, State.join]
  · next hk hk' => simp [rule, hk', hd, operand, Draft.spaceUnlessAfter, hp, hk, State.join]
  · exact absurd hf Bool.false_ne_true

end ScriptLayout.Layout
