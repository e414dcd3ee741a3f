import ScriptLayout.Proofs.Program.Line

/-!
# The layout of a statement

What is written for a phrase is its picture (`spec`), whatever comes after it.
A statement is written from the beginning of a line to the beginning of another,
and closes the single statements that it is the body of; nothing but the open
scopes is passed on from one phrase to the next.

The proof is by induction on phrases. There is a specification for each form of
phrase (`Spec`), and a lemma for each way to make one.
-/

namespace ScriptLayout.Program

open Layout

variable {style : Style} {unit : List Char} {scopes scopes' : List Scope} {closed : Scope}
  {st : State} {e : Operand} {rest : List Lexeme}

/-! ### How phrases begin -/

/-- The lexeme begins a statement that is not a block. -/
def Begins (t : Lexeme) : Prop :=
  t.kind ∈ [.symbol, .number, .string] ∧ t.text ∉ ["catch", "finally", ":"]

/-- Such a lexeme is no opening delimiter. -/
theorem Begins.nextIn_eq_false {t : Lexeme} (h : Begins t) :
    nextIn (some t) [.openBrace, .openParen] = false ∧ nextIn (some t) [.openBrace] = false := by
  have hk := h.1
  simp only [List.mem_cons, List.not_mem_nil, or_false] at hk
  rcases hk with hk | hk | hk <;> simp [nextIn, hk]

theorem Operand.begins (e : Operand) : Begins e.toLexeme ∧ e.text ≠ "if" := by
  have hsub : "if" :: ["catch", "finally", ":"] ⊆ ":" :: reservedWords := by decide
  have htext : e.text ∉ "if" :: ["catch", "finally", ":"] := fun h => e.text_not_mem (hsub h)
  rw [List.mem_cons, not_or] at htext
  exact ⟨⟨e.kind_mem, htext.2⟩, htext.1⟩

theorem action_begins (a : Phrase .action) :
    ∃ t ts, a.lexemes = t :: ts ∧ Begins t ∧ t.text ≠ "if" := by
  have hword {w : String} (h : w ∈ ["while", "with", "for", "switch", "try"]) :
      Begins (word w) ∧ (word w).text ≠ "if" := by
    have hall : ∀ w ∈ ["while", "with", "for", "switch", "try"],
        w ∉ ["catch", "finally", ":"] ∧ w ≠ "if" := by decide
    exact ⟨⟨List.mem_cons_self, (hall w h).1⟩, (hall w h).2⟩
  cases a with
  | simple e => exact ⟨_, _, rfl, e.begins⟩
  | guarded w hw => exact ⟨_, _, rfl, hword (List.mem_append_left _ hw)⟩
  | loop | select | attempt => exact ⟨_, _, rfl, hword (by decide)⟩

theorem body_begins (b : Phrase .body) : ∃ t ts, b.lexemes = t :: ts ∧ Begins t := by
  cases b with
  | action a =>
    obtain ⟨t, ts, h, hb, -⟩ := action_begins a
    exact ⟨t, ts, h, hb⟩
  | conditional => exact ⟨_, _, rfl, List.mem_cons_self, by decide⟩

theorem block_begins (b : Phrase .block) : ∃ ts, b.lexemes = mark .openBrace braceOpen :: ts := by
  cases b with
  | block => exact ⟨_, rfl⟩

/-- A statement does not begin with a closing brace. -/
theorem statement_begins (s : Phrase .statement) :
    ∃ t ts, s.lexemes = t :: ts ∧ t.kind ≠ .closeBrace := by
  cases s with
  | body b =>
    obtain ⟨t, ts, h, hb⟩ := body_begins b
    exact ⟨t, ts, h, fun hk => absurd hb.1 (by rw [hk]; decide)⟩
  | standalone b =>
    obtain ⟨ts, h⟩ := block_begins b
    exact ⟨_, ts, h, by decide⟩
  | chain => exact ⟨_, _, rfl, by decide⟩

theorem Begins.resumes {t : Lexeme} {ts : List Lexeme} (h : Begins t) : Resumes (t :: ts) := by
  rintro _ ⟨⟩
  exact ⟨List.mem_append_left [Kind.openBrace, Kind.closeBrace] h.1, h.2⟩

theorem resumes_block (b : Phrase .block) : Resumes (b.lexemes ++ rest) := by
  obtain ⟨ts, h⟩ := block_begins b
  rw [h]
  rintro _ ⟨⟩
  decide

theorem resumes_body (b : Phrase .body) : Resumes (b.lexemes ++ rest) := by
  obtain ⟨t, ts, h, hb⟩ := body_begins b
  rw [h]
  exact hb.resumes

theorem resumes_statement (s : Phrase .statement) : Resumes (s.lexemes ++ rest) := by
  cases s with
  | body b => exact resumes_body b
  | standalone b => exact resumes_block b
  | chain =>
    rintro _ ⟨⟩
    decide

theorem resumes_statements (s : Phrase .statements) (hr : Resumes rest) :
    Resumes (s.lexemes ++ rest) := by
  cases s with
  | noStatements => exact hr
  | moreStatements first s =>
    rw [Phrase.lexemes, List.append_assoc]
    exact resumes_statement first

theorem resumes_label (l : Phrase .label) : Resumes (l.lexemes ++ rest) := by
  cases l <;> rintro _ ⟨⟩ <;> decide

theorem resumes_labels (ls : Phrase .labels) (hr : Resumes rest) :
    Resumes (ls.lexemes ++ rest) := by
  cases ls with
  | noLabels => exact hr
  | moreLabels first ls =>
    rw [Phrase.lexemes, List.append_assoc]
    exact resumes_label first

theorem resumes_alternatives (a : Phrase .alternatives) (hr : Resumes rest) :
    Resumes (a.lexemes ++ rest) := by
  cases a with
  | noElse => exact hr
  | elseIf | elseBlock | elseAction =>
    rintro _ ⟨⟩
    decide

theorem resumes_closeBrace : Resumes (mark .closeBrace braceClose :: rest) := by
  rintro _ ⟨⟩
  decide

/-- The handlers of a try go on with it. -/
theorem closes_handlers (h : Phrase .handlers) : Closes scopes (h.lexemes ++ rest) scopes := by
  cases h <;> exact .goesOn (by decide)

/-- Where no single statement is innermost, none is closed. -/
theorem Closes.of_settled (hs : scopes.dropWhile Scope.isSingle = scopes) (hr : Resumes rest) :
    Closes scopes rest scopes := by
  have h : Closes scopes rest (scopes.dropWhile Scope.isSingle) := .ends hr
  rwa [hs] at h

/-! ### Pictures -/

/-- The text of rows, each after a line break. -/
def rowsText (unit : List Char) (rows : List Row) : List Char :=
  rows.flatMap fun r => lineText unit r.depth r.text.toList

@[simp]
theorem rowsText_append (rows rows' : List Row) :
    rowsText unit (rows ++ rows') = rowsText unit rows ++ rowsText unit rows' :=
  List.flatMap_append

@[simp]
theorem rowsText_nil : rowsText unit [] = [] := rfl

theorem rowsText_cons (r : Row) (rows : List Row) :
    rowsText unit (r :: rows) = lineText unit r.depth r.text.toList ++ rowsText unit rows := rfl

/-- A header is written with its brace, if one follows. -/
theorem rowsText_headerRows (depth : Nat) (text : String) (braced : Bool) :
    rowsText unit (headerRows style depth text braced) = lineText unit depth text.toList ++
      if braced then braceText style unit depth else [] := by
  unfold headerRows braceText
  cases braced with
  | false => simp [rowsText]
  | true =>
    cases hstyle : style.openBraceOnNewLine with
    | false => simp [rowsText, lineText_append]
    | true => simp [rowsText]

/-! ### What is written for a phrase -/

/-- The specification of a phrase, by its form. A block is written after its
    opening brace as its rows, and what follows a header after the header. A
    statement that may be the body of a header closes the scopes of the single
    statements around it; the others stand where there are none. -/
def Spec (style : Style) (unit : List Char) : {k : Category} → Phrase k → Prop
  | .block, p => ∀ {scopes scopes' st text rest}, Opens style unit scopes st text →
    Closes scopes rest scopes' →
    Writes style unit st p.lexemes rest
      (text ++ rowsText unit (p.rows style scopes.length)) scopes'
  | .arm, p | .branch, p => ∀ {scopes closed rest}, closed.isDo = false →
    (∀ scope ∈ scopes, scope.isDo = false) → Resumes rest →
    Writes style unit (afterHeader scopes closed (p.lexemes ++ rest).head?) p.lexemes rest
      ((if p.isBraced then braceText style unit scopes.length else []) ++
        rowsText unit (p.rows style scopes.length)) (scopes.dropWhile Scope.isSingle)
  | .action, p | .body, p | .handlers, p => ∀ {scopes st rest}, AtLine scopes st → Resumes rest →
    Writes style unit st p.lexemes rest (rowsText unit (p.rows style scopes.length))
      (scopes.dropWhile Scope.isSingle)
  | .statement, p | .statements, p | .alternatives, p => ∀ {scopes st rest}, AtLine scopes st →
    scopes.dropWhile Scope.isSingle = scopes → Resumes rest →
    Writes style unit st p.lexemes rest (rowsText unit (p.rows style scopes.length)) scopes
  | .label, p => ∀ {scopes st rest}, AtLabel scopes st → Resumes rest →
    Writes style unit st p.lexemes rest (rowsText unit (p.rows style (scopes.length + 1)))
      (.caseBody :: .block :: scopes)
  | .labels, p => ∀ {scopes st rest}, AtLine (.caseBody :: .block :: scopes) st → Resumes rest →
    Writes style unit st p.lexemes rest (rowsText unit (p.rows style (scopes.length + 1)))
      (.caseBody :: .block :: scopes)

/-! ### Operands and headers -/

/-- An operand that is a statement. -/
theorem AtLine.writes_simple (h : AtLine scopes st) (hr : Resumes rest) :
    Writes style unit st [e.toLexeme, mark .semicolon ";"] rest
      (lineText unit scopes.length (e.text ++ ";").toList) (scopes.dropWhile Scope.isSingle) := by
  obtain ⟨st', hst', heq⟩ : Writes style unit (onLine scopes st.scopes.closed {} 0 e.kind)
      [mark .semicolon ";"] rest ";".toList (scopes.dropWhile Scope.isSingle) :=
    writes_end h.closed h.noDo hr
  refine ⟨st', hst', ?_⟩
  rw [List.cons_append, h.written_operand, heq, ← List.append_assoc, lineText_append,
    String.toList_append]

/-- The header of a statement, up to what follows it. -/
theorem AtLine.written_header {w : String} (h : AtLine scopes st) (hw : w ∈ headerWords) :
    written style unit st (header w e ++ rest) =
      lineText unit scopes.length (w ++ " (" ++ e.text ++ ")").toList ++
        written style unit (afterHeader scopes st.scopes.closed rest.head?) rest := by
  have hall : ∀ w ∈ headerWords, w ∈ blockKeywords := by decide
  have ho : opensBlock w (some (mark .openParen "(")) := by
    simp [opensBlock, hall w hw]
  have hword : written style unit st
      (word w :: mark .openParen "(" :: e.toLexeme :: mark .closeParen ")" :: rest) = _ :=
    h.written_word (List.mem_cons_of_mem _ hw) ho rfl
  refine hword.trans ?_
  rw [written_condition, ← List.append_assoc, lineText_append]
  simp

/-- A header and what follows it. -/
theorem AtLine.writes_headed {w : String} (h : AtLine scopes st) (hw : w ∈ headerWords)
    {ts : List Lexeme} {braced : Bool} {text : List Char}
    (harm : Writes style unit (afterHeader scopes st.scopes.closed (ts ++ rest).head?) ts rest
      ((if braced then braceText style unit scopes.length else []) ++ text) scopes') :
    Writes style unit st (header w e ++ ts) rest
      (rowsText unit (headerRows style scopes.length (w ++ " (" ++ e.text ++ ")") braced) ++ text)
      scopes' := by
  rw [rowsText_headerRows, List.append_assoc]
  exact .after (h.written_header hw) harm

/-- A block after a header with a condition. -/
theorem Spec.writes_afterHeader {b : Phrase .block} (hb : Spec style unit b)
    (hc : closed.isDo = false) (hs : ∀ scope ∈ scopes, scope.isDo = false)
    (hcl : Closes scopes rest scopes') :
    Writes style unit (afterHeader scopes closed (b.lexemes ++ rest).head?) b.lexemes rest
      (braceText style unit scopes.length ++ rowsText unit (b.rows style scopes.length))
      scopes' := by
  have heq : afterHeader scopes closed (b.lexemes ++ rest).head? =
      onLine scopes closed { blockHeader := true } 0 .closeParen := by
    obtain ⟨ts, h⟩ := block_begins b
    rw [h]
    rfl
  rw [heq]
  exact hb (opens_onLine hc hs (by decide)) hcl

/-- A block right after the word that it belongs to. -/
theorem Spec.writes_word {w : String} {b : Phrase .block} (hb : Spec style unit b)
    (h : AtLine scopes st) (hw : w ∈ ["try", "finally", "else"])
    (hcl : Closes scopes rest scopes') :
    Writes style unit st (word w :: b.lexemes) rest
      (rowsText unit (headerRows style scopes.length w true) ++
        rowsText unit (b.rows style scopes.length)) scopes' := by
  obtain ⟨ts, hts⟩ := block_begins b
  have hall : ∀ w ∈ ["try", "finally", "else"], w ∈ "else" :: headerWords ∧
      opensBlock w (some (mark .openBrace braceOpen)) := by decide
  have heq : written style unit st ([word w] ++ (b.lexemes ++ rest)) = _ :=
    h.written_word (hall w hw).1 (by rw [hts]; exact (hall w hw).2) (by rw [hts]; rfl)
  rw [rowsText_headerRows, List.append_assoc]
  exact .after heq (hb (opens_onLine h.closed h.noDo (by decide)) hcl)

/-! ### The specification of each phrase -/

section Phrases

variable {first : Phrase .statement} {stmts : Phrase .statements} {b b' : Phrase .block}
  {bd : Phrase .body} {a : Phrase .action} {arm : Phrase .arm} {branch : Phrase .branch}
  {alternatives : Phrase .alternatives} {handlers : Phrase .handlers} {label : Phrase .label}
  {labels : Phrase .labels}

theorem Spec.block (hf : Spec style unit first) (hss : Spec style unit stmts) :
    Spec style unit (.block first stmts) := by
  intro scopes scopes' st text rest hopen hcl
  obtain ⟨t, ts, hts, hk⟩ := statement_begins first
  have hrest : Resumes (stmts.lexemes ++ (mark .closeBrace braceClose :: rest)) :=
    resumes_statements stmts resumes_closeBrace
  have hn : nextIn (first.lexemes ++ stmts.lexemes ++ [mark .closeBrace braceClose] ++ rest).head?
      [.closeBrace] = false := by
    rw [hts]
    simpa [nextIn] using hk
  rw [Phrase.lexemes, Phrase.rows, rowsText_append, rowsText_append, rowsText_cons, rowsText_nil,
    List.append_nil]
  -- The brace opens a block, in which no single statement is open before or
  -- after any of the statements.
  refine (hopen _ hn).append fun st₁ h₁ => .append ?_ fun st₃ h₃ => h₃.writes_closeBrace hcl
  exact .append (hf h₁ rfl hrest) fun st₂ h₂ => hss h₂ rfl resumes_closeBrace

theorem Spec.simple (e : Operand) : Spec style unit (.simple e) := by
  intro scopes st rest h hr
  rw [Phrase.lexemes, Phrase.rows, rowsText_cons, rowsText_nil, List.append_nil]
  exact h.writes_simple hr

theorem Spec.guarded {w : String} (hw : w ∈ ["while", "with"]) (e : Operand)
    (ha : Spec style unit arm) : Spec style unit (.guarded w hw e arm) := by
  intro scopes st rest h hr
  have hword : w ∈ headerWords := (show ["while", "with"] ⊆ headerWords by decide) hw
  rw [Phrase.lexemes, Phrase.rows, rowsText_append]
  exact h.writes_headed hword (ha h.closed h.noDo hr)

theorem Spec.loop (e₁ e₂ e₃ : Operand) (ha : Spec style unit arm) :
    Spec style unit (.loop e₁ e₂ e₃ arm) := by
  intro scopes st rest h hr
  have hfor : written style unit st ([word "for", mark .openParen "(", e₁.toLexeme,
      mark .semicolon ";", e₂.toLexeme, mark .semicolon ";", e₃.toLexeme, mark .closeParen ")"] ++
        (arm.lexemes ++ rest)) = lineText unit scopes.length
          ("for (" ++ e₁.text ++ "; " ++ e₂.text ++ "; " ++ e₃.text ++ ")").toList ++
        written style unit (afterHeader scopes st.scopes.closed (arm.lexemes ++ rest).head?)
          (arm.lexemes ++ rest) := by
    have hword : written style unit st (word "for" :: mark .openParen "(" :: e₁.toLexeme ::
        mark .semicolon ";" :: e₂.toLexeme :: mark .semicolon ";" :: e₃.toLexeme ::
        mark .closeParen ")" :: (arm.lexemes ++ rest)) = _ :=
      h.written_word (by decide) (by rfl) rfl
    refine hword.trans ?_
    rw [written_loop, ← List.append_assoc, lineText_append]
    simp
  rw [Phrase.lexemes, Phrase.rows, rowsText_append, rowsText_headerRows, List.append_assoc]
  exact .after hfor (ha h.closed h.noDo hr)

theorem Spec.select (e : Operand) (hl : Spec style unit label) (hls : Spec style unit labels) :
    Spec style unit (.select e label labels) := by
  intro scopes st rest h hr
  have hn : nextIn (label.lexemes ++ labels.lexemes ++ [mark .closeBrace braceClose] ++ rest).head?
      [.closeBrace] = false := by
    cases label <;> rfl
  have hls' : Resumes (labels.lexemes ++ (mark .closeBrace braceClose :: rest)) :=
    resumes_labels labels resumes_closeBrace
  have hbody : Writes style unit (afterHeader scopes st.scopes.closed
      (inBraces (label.lexemes ++ labels.lexemes) ++ rest).head?)
      (inBraces (label.lexemes ++ labels.lexemes)) rest
      (braceText style unit scopes.length ++
        (rowsText unit (label.rows style (scopes.length + 1)) ++
          rowsText unit (labels.rows style (scopes.length + 1)) ++
          lineText unit scopes.length braceClose.toList)) (scopes.dropWhile Scope.isSingle) := by
    refine (opens_onLine h.closed h.noDo (by decide) _ hn).append fun st₁ h₁ =>
      .append ?_ fun st₃ h₃ => h₃.writes_closeBrace_switch (.ends hr)
    exact .append (hl (.inl h₁) hls') fun st₂ h₂ => hls h₂ resumes_closeBrace
  have hselect : Writes style unit st
      (header "switch" e ++ inBraces (label.lexemes ++ labels.lexemes)) rest
      (rowsText unit (headerRows style scopes.length ("switch (" ++ e.text ++ ")") true) ++ _) _ :=
    h.writes_headed (by decide) hbody
  rw [Phrase.lexemes, Phrase.rows]
  simpa only [rowsText_append, rowsText_cons, rowsText_nil, List.append_nil, List.append_assoc]
    using hselect

theorem Spec.attempt (hb : Spec style unit b) (hh : Spec style unit handlers) :
    Spec style unit (.attempt b handlers) := by
  intro scopes st rest h hr
  rw [Phrase.lexemes, Phrase.rows, rowsText_append, rowsText_append]
  exact (hb.writes_word h (by decide) (closes_handlers handlers)).append fun st' h' => hh h' hr

theorem Spec.action (ha : Spec style unit a) : Spec style unit (.action a) := ha

theorem Spec.conditional (e : Operand) (ha : Spec style unit arm) :
    Spec style unit (.conditional e arm) := by
  intro scopes st rest h hr
  rw [Phrase.lexemes, Phrase.rows, rowsText_append]
  exact h.writes_headed (by decide) (ha h.closed h.noDo hr)

theorem Spec.armBlock (hb : Spec style unit b) : Spec style unit (.armBlock b) := by
  intro scopes closed rest hc hs hr
  exact hb.writes_afterHeader hc hs (.ends hr)

theorem Spec.armBody (hb : Spec style unit bd) : Spec style unit (.armBody bd) := by
  intro scopes closed rest hc hs hr
  obtain ⟨t, ts, hts, hb'⟩ := body_begins bd
  -- Without a brace, the header opens a single statement, which the body then closes.
  have hn : nextIn (bd.lexemes ++ rest).head? [.openBrace] = false := by
    rw [hts]
    exact hb'.nextIn_eq_false.2
  have hst : AtLine (.single :: scopes) (afterHeader scopes closed (bd.lexemes ++ rest).head?) := by
    rw [afterHeader, hn]
    exact atLine_lineEnd hc (noDo_cons rfl hs)
  exact hb hst hr

theorem Spec.branchBlock (hb : Spec style unit b) : Spec style unit (.branchBlock b) := by
  intro scopes closed rest hc hs hr
  exact hb.writes_afterHeader hc hs (.ends hr)

theorem Spec.branchSimple (e : Operand) : Spec style unit (.branchSimple e) := by
  intro scopes closed rest hc hs hr
  have hst : AtLine (.single :: scopes)
      (afterHeader scopes closed ((Phrase.branchSimple e).lexemes ++ rest).head?) := by
    have hn : nextIn ((Phrase.branchSimple e).lexemes ++ rest).head? [.openBrace] = false :=
      e.begins.1.nextIn_eq_false.2
    rw [afterHeader, hn]
    exact atLine_lineEnd hc (noDo_cons rfl hs)
  rw [Phrase.rows, rowsText_cons, rowsText_nil, List.append_nil]
  exact hst.writes_simple hr

theorem Spec.catchOnly (e : Operand) (hb : Spec style unit b) :
    Spec style unit (.catchOnly e b) := by
  intro scopes st rest h hr
  rw [Phrase.lexemes, Phrase.rows, rowsText_append]
  exact h.writes_headed (by decide) (hb.writes_afterHeader h.closed h.noDo (.ends hr))

theorem Spec.finallyOnly (hb : Spec style unit b) : Spec style unit (.finallyOnly b) := by
  intro scopes st rest h hr
  rw [Phrase.lexemes, Phrase.rows, rowsText_append]
  exact hb.writes_word h (by decide) (.ends hr)

theorem Spec.catchFinally (e : Operand) (hb : Spec style unit b) (hb' : Spec style unit b') :
    Spec style unit (.catchFinally e b b') := by
  intro scopes st rest h hr
  -- The first block ends no single statement around the try, since finally goes on with it.
  have hcatch : Writes style unit st (header "catch" e ++ b.lexemes)
      (word "finally" :: b'.lexemes ++ rest)
      (rowsText unit (headerRows style scopes.length ("catch (" ++ e.text ++ ")") true) ++
        rowsText unit (b.rows style scopes.length)) scopes :=
    h.writes_headed (by decide) (hb.writes_afterHeader h.closed h.noDo (.goesOn (by decide)))
  have hboth := hcatch.append fun st' h' => hb'.writes_word h' (by decide) (.ends hr)
  rw [Phrase.lexemes, Phrase.rows]
  simpa only [rowsText_append, List.append_assoc] using hboth

theorem Spec.noElse : Spec style unit .noElse := by
  intro scopes st rest h hs hr
  exact ⟨st, h, rfl⟩

theorem Spec.elseIf (e : Operand) (hbr : Spec style unit branch)
    (ha : Spec style unit alternatives) : Spec style unit (.elseIf e branch alternatives) := by
  intro scopes st rest h hs hr
  have hheader : written style unit st (word "else" :: header "if" e ++ (branch.lexemes ++
      (alternatives.lexemes ++ rest))) = lineText unit scopes.length
        ("else if (" ++ e.text ++ ")").toList ++ written style unit (afterHeader scopes
          st.scopes.closed (branch.lexemes ++ (alternatives.lexemes ++ rest)).head?)
          (branch.lexemes ++ (alternatives.lexemes ++ rest)) := by
    have hword : written style unit st (word "else" :: word "if" :: mark .openParen "(" ::
        e.toLexeme :: mark .closeParen ")" :: (branch.lexemes ++ (alternatives.lexemes ++ rest))) =
        _ := h.written_elseIf rfl
    refine hword.trans ?_
    rw [written_condition, ← List.append_assoc, lineText_append]
    simp
  have hbranch := hbr h.closed h.noDo (resumes_alternatives alternatives hr)
  rw [hs] at hbranch
  have hfirst : Writes style unit st (word "else" :: header "if" e ++ branch.lexemes)
      (alternatives.lexemes ++ rest)
      (rowsText unit (headerRows style scopes.length ("else if (" ++ e.text ++ ")")
        branch.isBraced) ++ rowsText unit (branch.rows style scopes.length)) scopes := by
    rw [rowsText_headerRows, List.append_assoc]
    exact .after hheader hbranch
  rw [Phrase.lexemes, Phrase.rows, rowsText_append, rowsText_append]
  exact hfirst.append fun st' h' => ha h' hs hr

theorem Spec.elseBlock (hb : Spec style unit b) : Spec style unit (.elseBlock b) := by
  intro scopes st rest h hs hr
  rw [Phrase.lexemes, Phrase.rows, rowsText_append]
  exact hb.writes_word h (by decide) (.of_settled hs hr)

theorem Spec.elseAction (ha : Spec style unit a) : Spec style unit (.elseAction a) := by
  intro scopes st rest h hs hr
  obtain ⟨t, ts, hts, hb, hif⟩ := action_begins a
  have ho : opensBlock "else" (a.lexemes ++ rest).head? := by
    rw [hts]
    simp [opensBlock, hif]
  have hn : nextIn (a.lexemes ++ rest).head? [.openBrace, .openParen] = false := by
    rw [hts]
    exact hb.nextIn_eq_false.1
  rw [Phrase.lexemes, Phrase.rows, rowsText_cons]
  have helse := (h.writes_else ho hn).append fun st' h' => ha h' hr
  rwa [List.dropWhile_cons_of_pos rfl, hs] at helse

theorem Spec.caseLabel (e : Operand) (hss : Spec style unit stmts) :
    Spec style unit (.caseLabel e stmts) := by
  intro scopes st rest h hr
  rw [Phrase.lexemes, Phrase.rows, rowsText_cons]
  exact h.writes_case.append fun st' h' => hss h' rfl hr

theorem Spec.defaultLabel (hss : Spec style unit stmts) :
    Spec style unit (.defaultLabel stmts) := by
  intro scopes st rest h hr
  rw [Phrase.lexemes, Phrase.rows, rowsText_cons]
  exact h.writes_default.append fun st' h' => hss h' rfl hr

theorem Spec.noLabels : Spec style unit .noLabels := by
  intro scopes st rest h hr
  exact ⟨st, h, rfl⟩

theorem Spec.moreLabels (hl : Spec style unit label) (hls : Spec style unit labels) :
    Spec style unit (.moreLabels label labels) := by
  intro scopes st rest h hr
  rw [Phrase.lexemes, Phrase.rows, rowsText_append]
  exact (hl (.inr h) (resumes_labels labels hr)).append fun st' h' => hls h' hr

theorem Spec.body (hb : Spec style unit bd) : Spec style unit (.body bd) := by
  intro scopes st rest h hs hr
  have hw := hb h hr
  rwa [hs] at hw

theorem Spec.standalone (hb : Spec style unit b) : Spec style unit (.standalone b) := by
  intro scopes st rest h hs hr
  rw [Phrase.lexemes, Phrase.rows, rowsText_cons]
  exact hb h.opens (.of_settled hs hr)

theorem Spec.chain (e : Operand) (hbr : Spec style unit branch)
    (ha : Spec style unit alternatives) : Spec style unit (.chain e branch alternatives) := by
  intro scopes st rest h hs hr
  have hbranch := hbr h.closed h.noDo (resumes_alternatives alternatives hr)
  rw [hs] at hbranch
  have hfirst : Writes style unit st (header "if" e ++ branch.lexemes)
      (alternatives.lexemes ++ rest)
      (rowsText unit (headerRows style scopes.length ("if (" ++ e.text ++ ")")
        branch.isBraced) ++ rowsText unit (branch.rows style scopes.length)) scopes :=
    h.writes_headed (by decide) hbranch
  rw [Phrase.lexemes, Phrase.rows, rowsText_append, rowsText_append]
  exact hfirst.append fun st' h' => ha h' hs hr

theorem Spec.noStatements : Spec style unit .noStatements := by
  intro scopes st rest h hs hr
  exact ⟨st, h, rfl⟩

theorem Spec.moreStatements (hf : Spec style unit first) (hss : Spec style unit stmts) :
    Spec style unit (.moreStatements first stmts) := by
  intro scopes st rest h hs hr
  rw [Phrase.lexemes, Phrase.rows, rowsText_append]
  exact (hf h hs (resumes_statements stmts hr)).append fun st' h' => hss h' hs hr

end Phrases

/-- What is written for a phrase is its picture. -/
theorem spec (style : Style) (unit : List Char) {k : Category} (p : Phrase k) :
    Spec style unit p := by
  -- The parts of a phrase are written in other scopes than the phrase, and before
  -- other lexemes: the specification is about all of them.
  induction p with
  | block _ _ hf hss => exact Spec.block hf hss
  | simple e => exact Spec.simple e
  | guarded w hw e _ ha => exact Spec.guarded hw e ha
  | loop e₁ e₂ e₃ _ ha => exact Spec.loop e₁ e₂ e₃ ha
  | select e _ _ hl hls => exact Spec.select e hl hls
  | attempt _ _ hb hh => exact Spec.attempt hb hh
  | action _ ha => exact Spec.action ha
  | conditional e _ ha => exact Spec.conditional e ha
  | armBlock _ hb => exact Spec.armBlock hb
  | armBody _ hb => exact Spec.armBody hb
  | branchBlock _ hb => exact Spec.branchBlock hb
  | branchSimple e => exact Spec.branchSimple e
  | catchOnly e _ hb => exact Spec.catchOnly e hb
  | finallyOnly _ hb => exact Spec.finallyOnly hb
  | catchFinally e _ _ hb hb' => exact Spec.catchFinally e hb hb'
  | noElse => exact Spec.noElse
  | elseIf e _ _ hbr ha => exact Spec.elseIf e hbr ha
  | elseBlock _ hb => exact Spec.elseBlock hb
  | elseAction _ ha => exact Spec.elseAction ha
  | caseLabel e _ hss => exact Spec.caseLabel e hss
  | defaultLabel _ hss => exact Spec.defaultLabel hss
  | noLabels => exact Spec.noLabels
  | moreLabels _ _ hl hls => exact Spec.moreLabels hl hls
  | body _ hb => exact Spec.body hb
  | standalone _ hb => exact Spec.standalone hb
  | chain e _ _ hbr ha => exact Spec.chain e hbr ha
  | noStatements => exact Spec.noStatements
  | moreStatements _ _ hf hss => exact Spec.moreStatements hf hss

end ScriptLayout.Program
