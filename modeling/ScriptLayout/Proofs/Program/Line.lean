import ScriptLayout.Proofs.Layout.Gap
import ScriptLayout.Proofs.Layout.Placement
import ScriptLayout.Proofs.Program.Grammar

/-!
# The lines of a statement

How the tokens of statements are placed, one or a few at a time: from the
beginning of a line (`AtLine`) to the end of a header, or to the beginning of
the next line. The steps say what is written and which scopes are open after
it; nothing else of the state matters to what comes then.
-/

namespace ScriptLayout.Program

open Layout

variable {style : Style} {unit : List Char} {scopes scopes' : List Scope} {closed : Scope}
  {st : State} {line : Line} {parens : Nat} {previous : Kind} {e : Operand}
  {ts rest : List Lexeme} {next : Option Lexeme}

/-! ### Operands -/

/-- An operand is neither reserved nor a colon, and so not taken for anything else. -/
theorem Operand.text_not_mem (e : Operand) : e.text ∉ ":" :: reservedWords := by
  obtain ⟨previous, rest, c, tail, htext, -, hm⟩ := e.readable
  have hkind := Lexeme.measured_iff.1 hm
  intro hmem
  rcases List.mem_cons.1 hmem with hcolon | hword
  · -- A colon is read as a colon.
    rw [hcolon] at htext
    obtain ⟨rfl, rfl⟩ := List.cons.inj htext
    have hk : Kind.colon = e.kind := (Prod.mk.inj hkind).1
    rcases e.form with h | ⟨h, -⟩ | ⟨h, -⟩ <;> simp [h] at hk
  · -- What begins as a word does is read as a word.
    have hstart : ∀ word ∈ reservedWords, word.toList.head?.any Lexeme.isWordStart := by decide
    have hc : Lexeme.isWordStart c := by simpa [htext] using hstart _ hword
    rw [Lexeme.measure, if_pos hc] at hkind
    have hk : Kind.symbol = e.kind := (Prod.mk.inj hkind).1
    rcases e.form with h | ⟨h, -⟩ | ⟨-, h⟩
    · simp [h] at hk
    · simp [h] at hk
    · exact h hword

theorem Operand.kind_mem (e : Operand) : e.kind ∈ [.symbol, .number, .string] := by
  rcases e.form with h | ⟨h, -⟩ | ⟨h, -⟩ <;> simp [h]

/-! ### States -/

/-- The state on a line that has something on it. -/
def onLine (scopes : List Scope) (closed : Scope) (line : Line) (parens : Nat) (previous : Kind) :
    State :=
  { scopes := ⟨scopes, closed⟩, line, parens, seam := .joined, previous }

/-- The next token begins a line, and the given scopes are open. No loop with
    its condition at the end is among them, nor has one been closed. -/
structure AtLine (scopes : List Scope) (st : State) : Prop where
  seam : st.seam = .broken
  inner : st.scopes.inner = scopes
  closed : st.scopes.closed.isDo = false
  doClosedNext : st.doClosedNext = false
  noDo : ∀ scope ∈ scopes, scope.isDo = false

/-- The state after a line that has been ended. -/
def lineEnd (scopes : List Scope) (closed : Scope) (line : Line) (parens : Nat) (previous : Kind) :
    State :=
  (onLine scopes closed line parens previous).join .broken

theorem atLine_lineEnd (hc : closed.isDo = false) (hs : ∀ scope ∈ scopes, scope.isDo = false) :
    AtLine scopes (lineEnd scopes closed line parens previous) :=
  ⟨rfl, rfl, hc, rfl, hs⟩

theorem noDo_cons {scope : Scope} (h : scope.isDo = false)
    (hs : ∀ scope ∈ scopes, scope.isDo = false) :
    ∀ scope' ∈ scope :: scopes, scope'.isDo = false :=
  List.forall_mem_cons.2 ⟨h, hs⟩

theorem AtLine.noDo_tail {scope : Scope} (h : AtLine (scope :: scopes) st) :
    ∀ scope' ∈ scopes, scope'.isDo = false :=
  (List.forall_mem_cons.1 h.noDo).2

/-- The draft of a token that begins a line. -/
theorem AtLine.ofState (h : AtLine scopes st) : Draft.ofState st =
    ⟨[.line scopes.length], true, onLine scopes st.scopes.closed {} 0 st.previous⟩ := by
  obtain ⟨⟨inner, closed⟩, line, doClosedNext, parens, brackets, seam, previous⟩ := st
  obtain ⟨rfl, rfl, -, rfl, -⟩ := h
  rfl

/-- The draft of a token on a line. -/
theorem ofState_onLine : Draft.ofState (onLine scopes closed line parens previous) =
    ⟨[], false, onLine scopes closed line parens previous⟩ := rfl

/-- What is written for tokens from a state on. -/
def written (style : Style) (unit : List Char) (st : State) (ts : List Lexeme) : List Char :=
  spellAll unit (placeAll style st ts)

/-- The text of a line that begins at a depth. -/
def lineText (unit : List Char) (depth : Nat) (text : List Char) : List Char :=
  '\n' :: (levels unit depth ++ text)

theorem lineText_append (depth : Nat) (text more : List Char) :
    lineText unit depth text ++ more = lineText unit depth (text ++ more) := by
  simp [lineText]

theorem written_cons (t : Lexeme) (ts : List Lexeme) : written style unit st (t :: ts) =
    spell unit (place style st t ts.head?).gap ++ t.text.toList ++
      written style unit (place style st t ts.head?).after ts := rfl

/-- The token at the beginning of a line. -/
theorem AtLine.written_cons {t : Lexeme} (h : AtLine scopes st) {d : Draft} {after : State}
    (hr : rule style .broken t ts.head?
      ⟨[.line scopes.length], true, onLine scopes st.scopes.closed {} 0 st.previous⟩ = (d, after)) :
    written style unit st (t :: ts) = spell unit d.gap ++ t.text.toList ++
      written style unit { after with previous := t.kind } ts := by
  rw [Program.written_cons, place, h.seam, h.ofState]
  dsimp only
  rw [hr]

/-- A token on a line. -/
theorem written_onLine_cons {t : Lexeme} {d : Draft} {after : State}
    (hr : rule style .joined t ts.head? ⟨[], false, onLine scopes closed line parens previous⟩ =
      (d, after)) :
    written style unit (onLine scopes closed line parens previous) (t :: ts) =
      spell unit d.gap ++ t.text.toList ++
        written style unit { after with previous := t.kind } ts := by
  rw [written_cons, place, ofState_onLine]
  dsimp only [onLine]
  dsimp only [onLine] at hr
  rw [hr]

/-- From the state `st` on, the lexemes `ts` before `rest` are written as `text`,
    and leave a state at the beginning of a line in the scopes `scopes'`. -/
def Writes (style : Style) (unit : List Char) (st : State) (ts rest : List Lexeme)
    (text : List Char) (scopes' : List Scope) : Prop :=
  ∃ st', AtLine scopes' st' ∧
    written style unit st (ts ++ rest) = text ++ written style unit st' rest

/-- Phrases in sequence are written one after the other. -/
theorem Writes.append {ts ts' : List Lexeme} {text text' : List Char} {scopes'' : List Scope}
    (h : Writes style unit st ts (ts' ++ rest) text scopes')
    (h' : ∀ st', AtLine scopes' st' → Writes style unit st' ts' rest text' scopes'') :
    Writes style unit st (ts ++ ts') rest (text ++ text') scopes'' := by
  obtain ⟨st', hst', heq⟩ := h
  obtain ⟨st'', hst'', heq'⟩ := h' st' hst'
  refine ⟨st'', hst'', ?_⟩
  rw [List.append_assoc, heq, heq', List.append_assoc]

/-- What is written for a header and what follows it. -/
theorem Writes.after {st₁ : State} {ts ts' : List Lexeme} {text text' : List Char}
    (heq : written style unit st (ts ++ (ts' ++ rest)) =
      text ++ written style unit st₁ (ts' ++ rest))
    (h : Writes style unit st₁ ts' rest text' scopes') :
    Writes style unit st (ts ++ ts') rest (text ++ text') scopes' := by
  obtain ⟨st', hst', heq'⟩ := h
  refine ⟨st', hst', ?_⟩
  rw [List.append_assoc, heq, heq', List.append_assoc]

/-! ### Words and operands -/

/-- A word other than function breaks no line. -/
theorem functionDraft_eq {word : String} (h : word ≠ "function") (d : Draft) :
    functionDraft style word d = d := by
  rw [functionDraft]
  simp [h]

theorem labelDraft_eq {word : String} (h : isLabel word = false) (d : Draft) :
    labelDraft word d = d := by
  simp [labelDraft, h]

/-- An operand opens nothing. -/
theorem Operand.opensBlock_eq_false (e : Operand) (next : Option Lexeme) :
    opensBlock e.text next = false := by
  have hkeyword : e.text ∉ blockKeywords := fun h =>
    e.text_not_mem (List.mem_cons_of_mem _ (List.mem_append_left _ h))
  have helse : e.text ≠ "else" := fun h => e.text_not_mem (by rw [h]; decide)
  simp [opensBlock, hkeyword, helse]

/-- An operand is no label. -/
theorem Operand.isLabel_eq_false (e : Operand) : isLabel e.text = false := by
  have hcase : e.text ≠ "case" := fun h => e.text_not_mem (by rw [h]; decide)
  have hdefault : e.text ≠ "default" := fun h => e.text_not_mem (by rw [h]; decide)
  simp [isLabel, hcase, hdefault]

/-- An operand leaves the state as it is. -/
theorem rule_operand (seam : Seam) {d : Draft} (hp : d.first = false → d.state.previous ≠ .dot) :
    rule style seam e.toLexeme next d =
      (d.spaceUnlessAfter [.openParen, .openBracket, .unaryPrefix], d.state) := by
  have hkind := e.kind_mem
  simp only [List.mem_cons, List.not_mem_nil, or_false] at hkind
  rw [rule]
  rcases hkind with h | h | h <;> rw [h] <;> dsimp only
  · have hfun : e.text ≠ "function" := fun h => e.text_not_mem (by rw [h]; decide)
    -- A word would stand close to a point as well, but there is none before it.
    have hspace : d.spaceUnlessAfter [.openParen, .openBracket, .unaryPrefix, .dot] =
        d.spaceUnlessAfter [.openParen, .openBracket, .unaryPrefix] := by
      cases hf : d.first with
      | false => simp [Draft.spaceUnlessAfter, hf, hp hf]
      | true => simp [Draft.spaceUnlessAfter, hf]
    rw [symbol_eq, functionDraft_eq hfun, labelDraft_eq e.isLabel_eq_false]
    simp only [e.opensBlock_eq_false, e.isLabel_eq_false, Bool.false_eq_true, and_false, if_false,
      Draft.state_spaceUnlessAfter, hspace]
  · rw [operand, Draft.state_spaceUnlessAfter]
  · rw [operand, Draft.state_spaceUnlessAfter]

/-- An operand that begins a line. -/
theorem AtLine.written_operand (h : AtLine scopes st) :
    written style unit st (e.toLexeme :: ts) = lineText unit scopes.length e.text.toList ++
      written style unit (onLine scopes st.scopes.closed {} 0 e.kind) ts := by
  rw [h.written_cons (rule_operand .broken fun hf => absurd hf.symm Bool.false_ne_true)]
  simp [Draft.spaceUnlessAfter, spell, dedents, lineText]
  rfl

/-- An operand on a line. -/
theorem written_onLine_operand (h : previous ∈ [.openParen, .semicolon, .symbol]) :
    written style unit (onLine scopes closed line parens previous) (e.toLexeme :: ts) =
      (if previous = .openParen then [] else [' ']) ++ e.text.toList ++
        written style unit (onLine scopes closed line parens e.kind) ts := by
  rw [written_onLine_cons (rule_operand .joined fun _ => ?_)]
  · simp only [List.mem_cons, List.not_mem_nil, or_false] at h
    rcases h with rfl | rfl | rfl <;> rfl
  · rintro rfl
    exact absurd h (by decide)

/-! ### Headers -/

/-- The words of headers. -/
def headerWords : List String :=
  ["catch", "finally", "for", "if", "switch", "try", "while", "with"]

/-- A word that opens a block or a single statement, before the space. -/
theorem symbol_opensBlock {w : String} (hw : w ∈ "else" :: headerWords)
    (ho : opensBlock w next) {d : Draft} (hp : d.state.parens = 0) :
    symbol style w next d =
      (d.spaceUnlessAfter [], afterBlockWord w next d.state) := by
  have hall : ∀ w ∈ "else" :: headerWords, w ≠ "function" ∧ isLabel w = false := by decide
  obtain ⟨hfun, hlabel⟩ := hall w hw
  rw [symbol_eq, functionDraft_eq hfun, labelDraft_eq hlabel]
  simp only [hp, ho, and_self, if_true, Draft.state_spaceUnlessAfter]

/-- A header begins with its word. -/
theorem afterBlockWord_header {w : String} (hw : w ∈ "else" :: headerWords)
    (hn : nextIn next [.openBrace, .openParen]) :
    afterBlockWord w next (onLine scopes closed {} 0 previous) =
      onLine scopes closed { blockHeader := true } 0 previous := by
  have hdo : w ≠ "do" := by
    rintro rfl
    exact absurd hw (by decide)
  simp [afterBlockWord, onLine, hdo, hn]

theorem AtLine.written_word {w : String} (h : AtLine scopes st) (hw : w ∈ "else" :: headerWords)
    (ho : opensBlock w ts.head?) (hn : nextIn ts.head? [.openBrace, .openParen]) :
    written style unit st (word w :: ts) = lineText unit scopes.length w.toList ++
      written style unit (onLine scopes st.scopes.closed { blockHeader := true } 0 .symbol) ts := by
  have hr : rule style .broken (word w) ts.head?
      ⟨[.line scopes.length], true, onLine scopes st.scopes.closed {} 0 st.previous⟩ = _ :=
    symbol_opensBlock hw ho rfl
  rw [h.written_cons hr, afterBlockWord_header hw hn]
  simp [Draft.spaceUnlessAfter, spell, dedents, lineText, word]
  rfl

/-- An else whose alternative is another conditional goes on with its header. -/
theorem AtLine.written_elseIf (h : AtLine scopes st)
    (hn : nextIn ts.head? [.openBrace, .openParen]) :
    written style unit st (word "else" :: word "if" :: ts) =
      lineText unit scopes.length "else if".toList ++
        written style unit (onLine scopes st.scopes.closed { blockHeader := true } 0 .symbol)
          ts := by
  -- The else opens nothing, and the single statement is that of the if.
  have helse : rule style .broken (word "else") (word "if" :: ts).head?
      ⟨[.line scopes.length], true, onLine scopes st.scopes.closed {} 0 st.previous⟩ =
      (⟨[.line scopes.length], true, onLine scopes st.scopes.closed {} 0 st.previous⟩,
        onLine scopes st.scopes.closed {} 0 st.previous) := rfl
  have hif : symbol style "if" ts.head? ⟨[], false, onLine scopes st.scopes.closed {} 0 .symbol⟩ =
      _ := symbol_opensBlock (by decide) (by rfl) rfl
  have hline : written style unit (onLine scopes st.scopes.closed {} 0 .symbol) (word "if" :: ts) =
      _ := written_onLine_cons hif
  have hboth : written style unit st (word "else" :: word "if" :: ts) =
      lineText unit scopes.length "else".toList ++
        written style unit (onLine scopes st.scopes.closed {} 0 .symbol) (word "if" :: ts) := by
    rw [h.written_cons helse]
    simp [spell, dedents, lineText, word]
    rfl
  rw [hboth, hline, afterBlockWord_header (by decide) hn]
  simp [Draft.spaceUnlessAfter, spell, lineText, word]
  rfl

/-- An else whose alternative is another statement, which begins the next line. -/
theorem AtLine.writes_else (h : AtLine scopes st) (ho : opensBlock "else" ts.head?)
    (hn : nextIn ts.head? [.openBrace, .openParen] = false) :
    Writes style unit st [word "else"] ts (lineText unit scopes.length "else".toList)
      (.single :: scopes) := by
  have hr : rule style .broken (word "else") ts.head?
      ⟨[.line scopes.length], true, onLine scopes st.scopes.closed {} 0 st.previous⟩ = _ :=
    symbol_opensBlock (by decide) ho rfl
  refine ⟨lineEnd (.single :: scopes) st.scopes.closed {} 0 .symbol,
    atLine_lineEnd h.closed (noDo_cons rfl h.noDo), (h.written_cons hr).trans ?_⟩
  simp [afterBlockWord, onLine, hn, Draft.spaceUnlessAfter, spell, dedents, lineText, word]
  rfl

/-- The state after a header: a brace goes on with the line, anything else begins
    the next one, as a single statement. -/
def afterHeader (scopes : List Scope) (closed : Scope) (next : Option Lexeme) : State :=
  if nextIn next [.openBrace] then onLine scopes closed { blockHeader := true } 0 .closeParen
  else lineEnd (.single :: scopes) closed { blockHeader := true } 0 .closeParen

/-- The end of a header. -/
theorem written_closeParen : written style unit
    (onLine scopes closed { blockHeader := true } 1 previous) (mark .closeParen ")" :: ts) =
      ")".toList ++ written style unit (afterHeader scopes closed ts.head?) ts := by
  rw [afterHeader]
  cases hn : nextIn ts.head? [.openBrace] with
  | false =>
    have hr : rule style .joined (mark .closeParen ")") ts.head?
        ⟨[], false, onLine scopes closed { blockHeader := true } 1 previous⟩ =
        (⟨[], false, onLine scopes closed { blockHeader := true } 1 previous⟩,
          lineEnd (.single :: scopes) closed { blockHeader := true } 0 previous) := by
      simp [rule, mark, closeParen, onLine, hn]
      rfl
    rw [written_onLine_cons hr]
    rfl
  | true =>
    have hr : rule style .joined (mark .closeParen ")") ts.head?
        ⟨[], false, onLine scopes closed { blockHeader := true } 1 previous⟩ =
        (⟨[], false, onLine scopes closed { blockHeader := true } 1 previous⟩,
          onLine scopes closed { blockHeader := true } 0 previous) := by
      simp [rule, mark, closeParen, onLine, hn]
    rw [written_onLine_cons hr]
    rfl

/-- The parenthesis of a header stands apart from its word. -/
theorem written_openParen : written style unit
    (onLine scopes closed { blockHeader := true } 0 .symbol) (mark .openParen "(" :: ts) =
      " (".toList ++
        written style unit (onLine scopes closed { blockHeader := true } 1 .openParen) ts := by
  have hr : rule style .joined (mark .openParen "(") ts.head?
      ⟨[], false, onLine scopes closed { blockHeader := true } 0 .symbol⟩ =
      (⟨[.space], false, onLine scopes closed { blockHeader := true } 0 .symbol⟩,
        onLine scopes closed { blockHeader := true } 1 .symbol) := rfl
  rw [written_onLine_cons hr]
  rfl

/-- A semicolon in the header of a loop does not end the line. -/
theorem written_semicolon : written style unit
    (onLine scopes closed line (parens + 1) previous) (mark .semicolon ";" :: ts) =
      ";".toList ++ written style unit (onLine scopes closed line (parens + 1) .semicolon) ts := by
  have hr : rule style .joined (mark .semicolon ";") ts.head?
      ⟨[], false, onLine scopes closed line (parens + 1) previous⟩ =
      (⟨[], false, onLine scopes closed line (parens + 1) previous⟩,
        onLine scopes closed line (parens + 1) previous) := rfl
  rw [written_onLine_cons hr]
  rfl

/-- The condition of a header. -/
theorem written_condition :
    written style unit (onLine scopes closed { blockHeader := true } 0 .symbol)
      (mark .openParen "(" :: e.toLexeme :: mark .closeParen ")" :: ts) =
        (" (" ++ e.text ++ ")").toList ++
          written style unit (afterHeader scopes closed ts.head?) ts := by
  rw [written_openParen, written_onLine_operand (by decide), written_closeParen]
  simp

/-- The three operands in the header of a loop. -/
theorem written_loop {e₁ e₂ e₃ : Operand} :
    written style unit (onLine scopes closed { blockHeader := true } 0 .symbol)
      (mark .openParen "(" :: e₁.toLexeme :: mark .semicolon ";" :: e₂.toLexeme ::
        mark .semicolon ";" :: e₃.toLexeme :: mark .closeParen ")" :: ts) =
        (" (" ++ e₁.text ++ "; " ++ e₂.text ++ "; " ++ e₃.text ++ ")").toList ++
          written style unit (afterHeader scopes closed ts.head?) ts := by
  rw [written_openParen, written_onLine_operand (by decide), written_semicolon,
    written_onLine_operand (by decide), written_semicolon, written_onLine_operand (by decide),
    written_closeParen]
  simp

/-! ### Braces -/

/-- The text of the opening brace after a header. -/
def braceText (style : Style) (unit : List Char) (depth : Nat) : List Char :=
  if style.openBraceOnNewLine then lineText unit depth braceOpen.toList
  else (" " ++ braceOpen).toList

/-- From this state, an opening brace that something follows is written as the
    given text, and opens a block. -/
def Opens (style : Style) (unit : List Char) (scopes : List Scope) (st : State)
    (text : List Char) : Prop :=
  ∀ ts, nextIn ts.head? [.closeBrace] = false →
    Writes style unit st [mark .openBrace braceOpen] ts text (.block :: scopes)

theorem opens_onLine (hc : closed.isDo = false) (hs : ∀ scope ∈ scopes, scope.isDo = false)
    (hp : previous ∈ [.symbol, .closeParen]) :
    Opens style unit scopes (onLine scopes closed { blockHeader := true } 0 previous)
      (braceText style unit scopes.length) := by
  intro ts hn
  rw [braceText]
  cases hstyle : style.openBraceOnNewLine with
  | false =>
    have hr : rule style .joined (mark .openBrace braceOpen) ts.head?
        ⟨[], false, onLine scopes closed { blockHeader := true } 0 previous⟩ =
        (⟨[.space], false, onLine scopes closed { blockHeader := true } 0 previous⟩,
          lineEnd (.block :: scopes) closed { blockHeader := true } 0 previous) := by
      simp only [List.mem_cons, List.not_mem_nil, or_false] at hp
      rcases hp with rfl | rfl <;> simp [rule, mark, openBrace, hstyle, hn] <;> exact ⟨rfl, rfl⟩
    refine ⟨lineEnd (.block :: scopes) closed { blockHeader := true } 0 .openBrace,
      atLine_lineEnd hc (noDo_cons rfl hs), (written_onLine_cons hr).trans ?_⟩
    rfl
  | true =>
    have hr : rule style .joined (mark .openBrace braceOpen) ts.head?
        ⟨[], false, onLine scopes closed { blockHeader := true } 0 previous⟩ =
        (⟨[.line scopes.length], false, onLine scopes closed {} 0 previous⟩,
          lineEnd (.block :: scopes) closed {} 0 previous) := by
      simp [rule, mark, openBrace, hstyle, hn]
      exact ⟨rfl, rfl⟩
    refine ⟨lineEnd (.block :: scopes) closed {} 0 .openBrace,
      atLine_lineEnd hc (noDo_cons rfl hs), (written_onLine_cons hr).trans ?_⟩
    simp [spell, dedents, lineText, mark]
    rfl

theorem AtLine.opens (h : AtLine scopes st) :
    Opens style unit scopes st (lineText unit scopes.length braceOpen.toList) := by
  intro ts hn
  have hr : rule style .broken (mark .openBrace braceOpen) ts.head?
      ⟨[.line scopes.length], true, onLine scopes st.scopes.closed {} 0 st.previous⟩ =
      (⟨[.line scopes.length], true, onLine scopes st.scopes.closed {} 0 st.previous⟩,
        lineEnd (.block :: scopes) st.scopes.closed {} 0 st.previous) := by
    simp [rule, mark, openBrace, hn, Draft.spaceUnlessAfter]
    rfl
  refine ⟨lineEnd (.block :: scopes) st.scopes.closed {} 0 .openBrace,
    atLine_lineEnd h.closed (noDo_cons rfl h.noDo), (h.written_cons hr).trans ?_⟩
  simp [spell, dedents, lineText, mark]
  rfl

/-! ### The ends of statements -/

/-- What may come after a statement: another one, an alternative, a label, or a
    closing brace. Not so what goes on with the statement. -/
def Resumes (ts : List Lexeme) : Prop :=
  ∀ t ∈ ts.head?, t.kind ∈ [.symbol, .number, .string, .openBrace, .closeBrace] ∧
    t.text ∉ ["catch", "finally", ":"]

/-- The next token is then of none of the other kinds. -/
theorem Resumes.nextIn_eq_false (h : Resumes ts) {kinds : List Kind}
    (hk : ∀ k ∈ [Kind.symbol, .number, .string, .openBrace, .closeBrace], k ∉ kinds) :
    nextIn ts.head? kinds = false := by
  rw [nextIn, Option.any_eq_false]
  intro t ht
  simpa using hk t.kind (h t ht).1

theorem Resumes.not_continued (h : Resumes ts) :
    (ts.head?.any fun t => ["catch", "finally", ":"].contains t.text) = false := by
  rw [Option.any_eq_false]
  intro t ht
  simpa using (h t ht).2

theorem closeSingles_closed (hc : closed.isDo = false)
    (hs : ∀ scope ∈ scopes, scope.isDo = false) :
    (Scopes.closeSingles ⟨scopes, closed⟩).closed.isDo = false := by
  rw [Scopes.closeSingles]
  induction scopes generalizing closed with
  | nil => exact hc
  | cons scope scopes ih =>
    rw [List.forall_mem_cons] at hs
    rw [Scopes.closeSingles.go]
    split
    · exact ih hs.1 hs.2
    · exact hc

theorem noDo_dropWhile (hs : ∀ scope ∈ scopes, scope.isDo = false) :
    ∀ scope ∈ scopes.dropWhile Scope.isSingle, scope.isDo = false :=
  fun scope h => hs scope ((List.dropWhile_suffix _).subset h)

/-- A semicolon ends the statement and those it is the single statement of. -/
theorem writes_end (hc : closed.isDo = false) (hs : ∀ scope ∈ scopes, scope.isDo = false)
    (hr : Resumes ts) :
    Writes style unit (onLine scopes closed line 0 previous) [mark .semicolon ";"] ts ";".toList
      (scopes.dropWhile Scope.isSingle) := by
  have hdo := closeSingles_closed hc hs
  have hn : nextIn ts.head? [.lineComment, .inlineComment] = false :=
    hr.nextIn_eq_false (by decide)
  have hend : rule style .joined (mark .semicolon ";") ts.head?
      ⟨[], false, onLine scopes closed line 0 previous⟩ =
      (⟨[], false, onLine scopes closed line 0 previous⟩,
        lineEnd (Scopes.closeSingles ⟨scopes, closed⟩).inner
          (Scopes.closeSingles ⟨scopes, closed⟩).closed line 0 previous) := by
    simp [rule, mark, semicolon, onLine, lineEnd, State.closeSingles, State.join, hdo, hn]
  refine ⟨lineEnd (Scopes.closeSingles ⟨scopes, closed⟩).inner
    (Scopes.closeSingles ⟨scopes, closed⟩).closed line 0 .semicolon, ?_,
    (written_onLine_cons hend).trans rfl⟩
  rw [Scopes.inner_closeSingles]
  exact atLine_lineEnd hdo (noDo_dropWhile hs)

/-- The scopes that stay open after a closing brace: the single statements that
    it ends are closed, unless the statement they are part of goes on. -/
inductive Closes (scopes : List Scope) : List Lexeme → List Scope → Prop
  | ends {ts : List Lexeme} : Resumes ts → Closes scopes ts (scopes.dropWhile Scope.isSingle)
  | goesOn {w : String} {ts : List Lexeme} : w ∈ ["catch", "finally"] →
      Closes scopes (word w :: ts) scopes

theorem Closes.atLine (h : Closes scopes ts scopes')
    (hs : ∀ scope ∈ scopes, scope.isDo = false) (previous k : Kind) :
    AtLine scopes' { afterCloseBrace ts.head? (onLine scopes .block {} 0 previous) with
      previous := k } := by
  cases h with
  | ends hr =>
    have hdo : (Scopes.closeSingles ⟨scopes, .block⟩).closed.isDo = false :=
      closeSingles_closed rfl hs
    -- What comes next neither stands on the line of the brace nor goes on with the statement.
    have hn : nextIn ts.head?
        [.semicolon, .closeParen, .closeBracket, .comma, .openParen, .colon] = false :=
      hr.nextIn_eq_false (by decide)
    have hcont := hr.not_continued
    have hclosed :
        (onLine scopes .block {} 0 previous).closeSingles.scopes.closed.isDo = false := hdo
    have hline : (onLine scopes .block {} 0 previous).closeSingles.line.doClosed = false := rfl
    have heq : afterCloseBrace ts.head? (onLine scopes .block {} 0 previous) =
        lineEnd (Scopes.closeSingles ⟨scopes, .block⟩).inner
          (Scopes.closeSingles ⟨scopes, .block⟩).closed {} 0 previous := by
      simp only [afterCloseBrace, hcont, hclosed, hn, hline, Bool.or_self, Bool.false_eq_true,
        if_false]
      rfl
    rw [heq, Scopes.inner_closeSingles]
    exact atLine_lineEnd hdo (noDo_dropWhile hs)
  | @goesOn w ts hw =>
    have heq : afterCloseBrace (some (word w)) (onLine scopes .block {} 0 previous) =
        lineEnd scopes .block {} 0 previous := by
      simp only [List.mem_cons, List.not_mem_nil, or_false] at hw
      rcases hw with rfl | rfl <;> rfl
    rw [List.head?_cons, heq]
    exact atLine_lineEnd rfl hs

/-- The closing brace of a block. -/
theorem AtLine.writes_closeBrace (h : AtLine (.block :: scopes) st)
    (hcl : Closes scopes ts scopes') : Writes style unit st [mark .closeBrace braceClose] ts
      (lineText unit scopes.length braceClose.toList) scopes' := by
  have hr : rule style .broken (mark .closeBrace braceClose) ts.head?
      ⟨[.line (Scope.block :: scopes).length], true,
        onLine (.block :: scopes) st.scopes.closed {} 0 st.previous⟩ =
      (⟨[.line (scopes.length + 1), .dedent], true, onLine scopes .block {} 0 st.previous⟩,
        afterCloseBrace ts.head? (onLine scopes .block {} 0 st.previous)) := rfl
  refine ⟨_, hcl.atLine h.noDo_tail st.previous .closeBrace,
    (h.written_cons hr).trans ?_⟩
  simp [spell, dedents, lineText, mark]

/-- The closing brace of a switch, which ends its last label too. -/
theorem AtLine.writes_closeBrace_switch (h : AtLine (.caseBody :: .block :: scopes) st)
    (hcl : Closes scopes ts scopes') : Writes style unit st [mark .closeBrace braceClose] ts
      (lineText unit scopes.length braceClose.toList) scopes' := by
  have hr : rule style .broken (mark .closeBrace braceClose) ts.head?
      ⟨[.line (Scope.caseBody :: .block :: scopes).length], true,
        onLine (.caseBody :: .block :: scopes) st.scopes.closed {} 0 st.previous⟩ =
      (⟨[.line (scopes.length + 2), .dedent, .dedent], true, onLine scopes .block {} 0 st.previous⟩,
        afterCloseBrace ts.head? (onLine scopes .block {} 0 st.previous)) := rfl
  have hs := (List.forall_mem_cons.1 h.noDo_tail).2
  refine ⟨_, hcl.atLine hs st.previous .closeBrace, (h.written_cons hr).trans ?_⟩
  simp [spell, dedents, lineText, mark]

/-! ### Labels -/

/-- The next token begins a line in a switch, before any label or in the body of
    one. -/
def AtLabel (scopes : List Scope) (st : State) : Prop :=
  AtLine (.block :: scopes) st ∨ AtLine (.caseBody :: .block :: scopes) st

/-- The word of a label closes the body of the label before. -/
theorem AtLabel.written_word {w : String} (h : AtLabel scopes st) (hw : w ∈ ["case", "default"]) :
    ∃ closed, closed.isDo = false ∧ (∀ scope ∈ scopes, scope.isDo = false) ∧
      written style unit st (word w :: ts) = lineText unit (scopes.length + 1) w.toList ++
        written style unit (onLine (.block :: scopes) closed { caseHeader := true } 0 .symbol)
          ts := by
  have hw' : w = "case" ∨ w = "default" := by simpa using hw
  rcases h with h | h
  · -- The first label, after the brace of the switch.
    refine ⟨st.scopes.closed, h.closed, h.noDo_tail, ?_⟩
    have hr : rule style .broken (word w) ts.head?
        ⟨[.line (Scope.block :: scopes).length], true,
          onLine (.block :: scopes) st.scopes.closed {} 0 st.previous⟩ =
        (⟨[.line (scopes.length + 1)], true,
            onLine (.block :: scopes) st.scopes.closed {} 0 st.previous⟩,
          onLine (.block :: scopes) st.scopes.closed { caseHeader := true } 0 st.previous) := by
      rcases hw' with rfl | rfl <;> rfl
    rw [h.written_cons hr]
    simp [spell, dedents, lineText, word]
    rfl
  · -- A label after the body of another, where the line was indented for the body.
    refine ⟨.caseBody, rfl, (List.forall_mem_cons.1 h.noDo_tail).2, ?_⟩
    have hr : rule style .broken (word w) ts.head?
        ⟨[.line (Scope.caseBody :: .block :: scopes).length], true,
          onLine (.caseBody :: .block :: scopes) st.scopes.closed {} 0 st.previous⟩ =
        (⟨[.line (scopes.length + 2), .dedent], true,
            onLine (.block :: scopes) .caseBody {} 0 st.previous⟩,
          onLine (.block :: scopes) .caseBody { caseHeader := true } 0 st.previous) := by
      rcases hw' with rfl | rfl <;> rfl
    rw [h.written_cons hr]
    simp [spell, dedents, lineText, word]
    rfl

/-- The colon of a label ends its line, and begins its body. -/
theorem writes_colon (hc : closed.isDo = false) (hs : ∀ scope ∈ scopes, scope.isDo = false) :
    Writes style unit (onLine (.block :: scopes) closed { caseHeader := true } 0 previous)
      [mark .colon ":"] ts ":".toList (.caseBody :: .block :: scopes) := by
  have hr : rule style .joined (mark .colon ":") ts.head?
      ⟨[], false, onLine (.block :: scopes) closed { caseHeader := true } 0 previous⟩ =
      (⟨[], false, onLine (.block :: scopes) closed { caseHeader := true } 0 previous⟩,
        lineEnd (.caseBody :: .block :: scopes) closed { caseHeader := true } 0 previous) := rfl
  refine ⟨lineEnd (.caseBody :: .block :: scopes) closed { caseHeader := true } 0 .colon,
    atLine_lineEnd hc (noDo_cons rfl (noDo_cons rfl hs)), (written_onLine_cons hr).trans rfl⟩

/-- A label with a value. -/
theorem AtLabel.writes_case (h : AtLabel scopes st) :
    Writes style unit st [word "case", e.toLexeme, mark .colon ":"] ts
      (lineText unit (scopes.length + 1) ("case " ++ e.text ++ ":").toList)
      (.caseBody :: .block :: scopes) := by
  have hcase : "case" ∈ ["case", "default"] := by decide
  obtain ⟨closed, hc, hs, hword⟩ : ∃ closed : Scope, closed.isDo = false ∧ _ ∧
      written style unit st (word "case" :: e.toLexeme :: mark .colon ":" :: ts) = _ :=
    h.written_word hcase
  obtain ⟨st', hst', hcolon⟩ : Writes style unit
      (onLine (.block :: scopes) closed { caseHeader := true } 0 e.kind) [mark .colon ":"] ts
      ":".toList (.caseBody :: .block :: scopes) := writes_colon hc hs
  refine ⟨st', hst', hword.trans ?_⟩
  rw [written_onLine_operand (by decide)]
  have hcolon' : written style unit _ (mark .colon ":" :: ts) = _ := hcolon
  rw [hcolon', ← List.append_assoc, lineText_append]
  simp [lineText]

/-- The label of what is done otherwise. -/
theorem AtLabel.writes_default (h : AtLabel scopes st) :
    Writes style unit st [word "default", mark .colon ":"] ts
      (lineText unit (scopes.length + 1) "default:".toList) (.caseBody :: .block :: scopes) := by
  have hdefault : "default" ∈ ["case", "default"] := by decide
  obtain ⟨closed, hc, hs, hword⟩ : ∃ closed : Scope, closed.isDo = false ∧ _ ∧
      written style unit st ([word "default"] ++ ([mark .colon ":"] ++ ts)) = _ :=
    h.written_word hdefault
  have hlabel : Writes style unit st ([word "default"] ++ [mark .colon ":"]) ts
      (lineText unit (scopes.length + 1) "default".toList ++ ":".toList)
      (.caseBody :: .block :: scopes) := .after hword (writes_colon hc hs)
  rwa [lineText_append] at hlabel

end ScriptLayout.Program
