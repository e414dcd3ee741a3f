import ScriptLayout.Proofs.Format.Respacing
import ScriptLayout.Proofs.Program.Statement

/-!
# The layout of a program

A source whose tokens are those of a program is laid out as the picture of the
program (`format_program`), whatever the blanks between the tokens. The unit of
indentation may be any text without a line break.

A layout begins as a line does, but with no line break before it
(`written_broken`); all of the rest is the layout of statements (`Program.spec`).
-/

namespace ScriptLayout

namespace Program

open Layout

variable {style : Style} {unit : List Char} {t : Lexeme}

/-! ### The first line -/

/-- A token that begins a statement is placed as the first of a layout in any
    gap alike. -/
theorem rule_first (seam : Seam) (next : Option Lexeme) (gap : List Mark)
    (h : t.kind ∈ [.symbol, .number, .string, .openBrace]) :
    rule style seam t next ⟨gap, true, onLine [] .block {} 0 .unknown⟩ =
      (⟨gap, true, onLine [] .block {} 0 .unknown⟩,
        (rule style .start t next ⟨[], true, onLine [] .block {} 0 .unknown⟩).2) := by
  simp only [List.mem_cons, List.not_mem_nil, or_false] at h
  unfold rule
  rcases h with h | h | h | h <;> rw [h] <;> dsimp only
  · have hfirst (gap : List Mark) : labelDraft t.text (functionDraft style t.text
        ⟨gap, true, onLine [] .block {} 0 .unknown⟩) =
        ⟨gap, true, onLine [] .block {} 0 .unknown⟩ := by
      simp [functionDraft, labelDraft, onLine, Scopes.current]
    rw [symbol_eq, symbol_eq, hfirst, hfirst]
    dsimp only
    split <;> rfl
  · rfl
  · rfl
  · simp [openBrace, Draft.spaceUnlessAfter]

/-- The state before the first token, but for the line break that comes before
    any other line. -/
theorem atLine_broken : AtLine [] { seam := .broken } :=
  ⟨rfl, rfl, rfl, rfl, fun _ h => absurd h List.not_mem_nil⟩

/-- The first line of a layout is written as any other, without the line break
    before it. -/
theorem written_broken {ts : List Lexeme} (h : t.kind ∈ [.symbol, .number, .string, .openBrace]) :
    written style unit { seam := .broken } (t :: ts) = '\n' :: written style unit {} (t :: ts) := by
  have hbroken : written style unit { seam := .broken } (t :: ts) = _ :=
    atLine_broken.written_cons (rule_first .broken ts.head? [.line 0] h)
  have hstart : written style unit {} (t :: ts) = t.text.toList ++ written style unit
      { (rule style .start t ts.head? ⟨[], true, onLine [] .block {} 0 .unknown⟩).2 with
        previous := t.kind } ts := by
    rw [written_cons, place]
    have hr : rule style .start t ts.head? (.ofState {}) = _ := rule_first .start ts.head? [] h
    dsimp only
    rw [hr]
    rfl
  rw [hbroken, hstart]
  simp [spell, dedents]

/-! ### Programs -/

/-- The lines of a picture, each after a line break and each before one. -/
theorem rowsText_append_newline (unit : String) (rows : List Row) :
    rowsText unit.toList rows ++ ['\n'] = '\n' :: (printRows unit rows).toList := by
  induction rows with
  | nil => rfl
  | cons r rows ih =>
    have hlevels : (String.join (List.replicate r.depth unit)).toList =
        levels unit.toList r.depth := by
      simp [levels, List.flatMap_def]
    have hprint : printRows unit (r :: rows) = r.print unit ++ printRows unit rows := by
      simp [printRows]
    rw [rowsText_cons, List.append_assoc, ih, hprint, Row.print]
    simp [hlevels, lineText]

/-- A statement begins with a word, a number, a string or an opening brace. -/
theorem statement_kind (s : Phrase .statement) : ∃ t ts, s.lexemes = t :: ts ∧
    t.kind ∈ [.symbol, .number, .string, .openBrace] := by
  obtain ⟨t, ts, hts, hk⟩ := statement_begins s
  have hr : Resumes (s.lexemes ++ []) := resumes_statement s
  rw [hts] at hr
  refine ⟨t, ts, hts, ?_⟩
  simpa [hk] using (hr t rfl).1

/-- What is written for the statements of a program. -/
theorem written_statements (first : Phrase .statement) (rest : Phrase .statements) :
    '\n' :: written style unit {} (Phrase.moreStatements first rest).lexemes =
      rowsText unit ((Phrase.moreStatements first rest).rows style 0) := by
  have hend : Resumes [] := fun _ h => absurd h (Option.not_mem_none _)
  obtain ⟨st, -, h⟩ := spec style unit (.moreStatements first rest) atLine_broken rfl hend
  obtain ⟨t, ts, hts, hk⟩ := statement_kind first
  have hp : (Phrase.moreStatements first rest).lexemes = t :: (ts ++ rest.lexemes) := by
    rw [Phrase.lexemes, hts, List.cons_append]
  rw [List.append_nil, hp, written_broken hk] at h
  rw [hp, h]
  exact List.append_nil _

end Program

/-! ### The result -/

open Program in
/-- A source whose lexemes are those of a program, of one statement at least, is
    laid out as the picture of the program. -/
theorem format_program (options : Options) (source : String) (first : Phrase .statement)
    (rest : Phrase .statements)
    (hp : lexemes source = (Phrase.moreStatements first rest).lexemes)
    (hn : '\n' ∉ options.indent.toList) :
    format options source = .ok (printRows options.indent
      ((Phrase.moreStatements first rest).rows options.toStyle 0)) := by
  rw [format_eq, hp, Layout.render_placeAll hn]
  have h := rowsText_append_newline options.indent
    ((Phrase.moreStatements first rest).rows options.toStyle 0)
  rw [← written_statements, List.cons_append, List.cons_inj_right] at h
  rw [← written, h, String.ofList_toList]

namespace Program

/-- The operand a. -/
def Operand.a : Operand where
  kind := .symbol
  text := "a"
  form := by decide
  readable := ⟨none, [], 'a', [], rfl, rfl, Lexeme.measured_iff.2 rfl⟩

/-- The operand 1. -/
def Operand.one : Operand where
  kind := .number
  text := "1"
  form := by decide
  readable := ⟨none, [], '1', [], rfl, rfl, Lexeme.measured_iff.2 rfl⟩

/-- A block of one statement, which is an operand. -/
def Operand.inBlock (e : Operand) : Phrase .block :=
  .block (.body (.action (.simple e))) .noStatements

end Program

open Program in
/-- Single statements and blocks in a label, with a unit of one tab. -/
theorem format_program_switch : ∃ (first : Phrase .statement) (rest : Phrase .statements),
    lexemes "switch(a)\x7bcase 1:if(a)1;else try\x7ba;\x7dfinally\x7b1;\x7d\x7d" =
      (Phrase.moreStatements first rest).lexemes ∧ '\n' ∉ "\t".toList ∧
    format { indent := "\t" }
        "switch(a)\x7bcase 1:if(a)1;else try\x7ba;\x7dfinally\x7b1;\x7d\x7d" =
      .ok ("switch (a) \x7b\n\tcase 1:\n\t\tif (a)\n\t\t\t1;\n\t\telse\n\t\t\ttry \x7b\n" ++
        "\t\t\t\ta;\n\t\t\t\x7d\n\t\t\tfinally \x7b\n\t\t\t\t1;\n\t\t\t\x7d\n\x7d\n") := by
  have hp : lexemes "switch(a)\x7bcase 1:if(a)1;else try\x7ba;\x7dfinally\x7b1;\x7d\x7d" =
      (Phrase.moreStatements (.body (.action (.select .a (.caseLabel .one (.moreStatements
        (.chain .a (.branchSimple .one) (.elseAction (.attempt Operand.a.inBlock
          (.finallyOnly Operand.one.inBlock)))) .noStatements)) .noLabels)))
        .noStatements).lexemes := by decide +kernel
  refine ⟨_, _, hp, by decide, ?_⟩
  rw [format_program { indent := "\t" } _ _ _ hp (by decide)]
  decide +kernel

end ScriptLayout
