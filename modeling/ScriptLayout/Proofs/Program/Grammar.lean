import ScriptLayout.Layout.Place
import ScriptLayout.Proofs.Lexeme.Reading

/-!
# A grammar of programs

Programs made of the usual statements around operands of one token, as syntax
trees: a `Phrase` for each form of statement and of its parts. A phrase has
lexemes (`Phrase.lexemes`), and a picture of rows, which says how it is to be
laid out (`Phrase.rows`): every statement, label, alternative, handler and
closing brace begins a row, and a row is as deep as there are blocks, labels and
headers around it.
-/

namespace ScriptLayout.Program

open Layout

/-! ### Operands -/

/-- The words that an operand cannot be. -/
def reservedWords : List String :=
  blockKeywords ++ ["else", "case", "default", "function"]

/-- An operand: a number, a closed string, or a word that is not reserved. -/
structure Operand extends Lexeme where
  /-- Its kind and what is required of it. -/
  form : kind = .number ∨ kind = .string ∧ toLexeme.isClosed ∨
    kind = .symbol ∧ text ∉ reservedWords
  /-- There is a text that is read as the operand. -/
  readable : ∃ previous rest, toLexeme.Heads previous rest

/-! ### Syntax -/

/-- The forms of phrases. -/
inductive Category where
  /-- Statements in braces. -/
  | block
  /-- A statement that begins with no if. -/
  | action
  /-- A statement that can be the body of a header. -/
  | body
  /-- What follows a header. -/
  | arm
  /-- What follows the header of a conditional with alternatives. -/
  | branch
  /-- What follows the block of a try. -/
  | handlers
  /-- The alternatives of a conditional. -/
  | alternatives
  /-- A label of a switch with its statements. -/
  | label
  | labels
  | statement
  | statements
  deriving DecidableEq, Repr

/-- The phrases of each form. -/
inductive Phrase : Category → Type where
  /-- `{ first rest }` -/
  | block (first : Phrase .statement) (rest : Phrase .statements) : Phrase .block
  /-- `e ;` -/
  | simple (e : Operand) : Phrase .action
  /-- `while ( e ) arm` and `with ( e ) arm` -/
  | guarded (word : String) (h : word ∈ ["while", "with"]) (e : Operand) (arm : Phrase .arm) :
      Phrase .action
  /-- `for ( e₁ ; e₂ ; e₃ ) arm` -/
  | loop (e₁ e₂ e₃ : Operand) (arm : Phrase .arm) : Phrase .action
  /-- `switch ( e ) { first rest }` -/
  | select (e : Operand) (first : Phrase .label) (rest : Phrase .labels) : Phrase .action
  /-- `try block handlers` -/
  | attempt (b : Phrase .block) (handlers : Phrase .handlers) : Phrase .action
  | action (a : Phrase .action) : Phrase .body
  /-- `if ( e ) arm` -/
  | conditional (e : Operand) (arm : Phrase .arm) : Phrase .body
  | armBlock (b : Phrase .block) : Phrase .arm
  | armBody (b : Phrase .body) : Phrase .arm
  | branchBlock (b : Phrase .block) : Phrase .branch
  /-- `e ;` -/
  | branchSimple (e : Operand) : Phrase .branch
  /-- `catch ( e ) block` -/
  | catchOnly (e : Operand) (b : Phrase .block) : Phrase .handlers
  /-- `finally block` -/
  | finallyOnly (b : Phrase .block) : Phrase .handlers
  /-- `catch ( e ) b finally b'` -/
  | catchFinally (e : Operand) (b b' : Phrase .block) : Phrase .handlers
  | noElse : Phrase .alternatives
  /-- `else if ( e ) branch rest` -/
  | elseIf (e : Operand) (branch : Phrase .branch) (rest : Phrase .alternatives) :
      Phrase .alternatives
  /-- `else block` -/
  | elseBlock (b : Phrase .block) : Phrase .alternatives
  /-- `else action` -/
  | elseAction (a : Phrase .action) : Phrase .alternatives
  /-- `case e : statements` -/
  | caseLabel (e : Operand) (stmts : Phrase .statements) : Phrase .label
  /-- `default : statements` -/
  | defaultLabel (stmts : Phrase .statements) : Phrase .label
  | noLabels : Phrase .labels
  | moreLabels (first : Phrase .label) (rest : Phrase .labels) : Phrase .labels
  | body (b : Phrase .body) : Phrase .statement
  | standalone (b : Phrase .block) : Phrase .statement
  /-- `if ( e ) branch alternatives` -/
  | chain (e : Operand) (branch : Phrase .branch) (alternatives : Phrase .alternatives) :
      Phrase .statement
  | noStatements : Phrase .statements
  | moreStatements (first : Phrase .statement) (rest : Phrase .statements) : Phrase .statements

/-! ### Lexemes -/

/-- A word as a lexeme. -/
def word (text : String) : Lexeme := ⟨.symbol, text⟩

/-- A mark of punctuation as a lexeme. -/
def mark (kind : Kind) (text : String) : Lexeme := ⟨kind, text⟩

/-- A header: a word and an operand in parentheses. -/
def header (text : String) (e : Operand) : List Lexeme :=
  [word text, mark .openParen "(", e.toLexeme, mark .closeParen ")"]

/-- The text of an opening brace. -/
def braceOpen : String := "\x7b"

/-- The text of a closing brace. -/
def braceClose : String := "\x7d"

/-- A list of lexemes in braces. -/
def inBraces (ts : List Lexeme) : List Lexeme :=
  mark .openBrace braceOpen :: (ts ++ [mark .closeBrace braceClose])

namespace Phrase

/-- The lexemes of a phrase. -/
@[simp]
def lexemes : {k : Category} → Phrase k → List Lexeme
  | _, block first rest => inBraces (first.lexemes ++ rest.lexemes)
  | _, simple e | _, branchSimple e => [e.toLexeme, mark .semicolon ";"]
  | _, guarded text _ e arm => header text e ++ arm.lexemes
  | _, loop e₁ e₂ e₃ arm =>
    [word "for", mark .openParen "(", e₁.toLexeme, mark .semicolon ";", e₂.toLexeme,
      mark .semicolon ";", e₃.toLexeme, mark .closeParen ")"] ++ arm.lexemes
  | _, select e first rest => header "switch" e ++ inBraces (first.lexemes ++ rest.lexemes)
  | _, attempt b handlers => word "try" :: (b.lexemes ++ handlers.lexemes)
  | _, action a => a.lexemes
  | _, conditional e arm => header "if" e ++ arm.lexemes
  | _, armBlock b | _, branchBlock b | _, standalone b => b.lexemes
  | _, armBody b | _, body b => b.lexemes
  | _, catchOnly e b => header "catch" e ++ b.lexemes
  | _, finallyOnly b => word "finally" :: b.lexemes
  | _, catchFinally e b b' =>
    header "catch" e ++ b.lexemes ++ word "finally" :: b'.lexemes
  | _, noElse => []
  | _, elseIf e branch rest => word "else" :: header "if" e ++ branch.lexemes ++ rest.lexemes
  | _, elseBlock b => word "else" :: b.lexemes
  | _, elseAction a => word "else" :: a.lexemes
  | _, caseLabel e stmts => [word "case", e.toLexeme, mark .colon ":"] ++ stmts.lexemes
  | _, defaultLabel stmts => [word "default", mark .colon ":"] ++ stmts.lexemes
  | _, chain e branch alternatives =>
    header "if" e ++ branch.lexemes ++ alternatives.lexemes
  | _, noLabels | _, noStatements => []
  | _, moreLabels first rest => first.lexemes ++ rest.lexemes
  | _, moreStatements first rest => first.lexemes ++ rest.lexemes

end Phrase

/-! ### Pictures -/

/-- A line of a picture. -/
structure Row where
  /-- The number of levels it is indented by. -/
  depth : Nat
  /-- What stands on it. -/
  text : String
  deriving DecidableEq, Repr

/-- The row with its indentation, as a line. -/
def Row.print (unit : String) (r : Row) : String :=
  String.join (List.replicate r.depth unit) ++ r.text ++ "\n"

/-- The lines of a picture. -/
def printRows (unit : String) (rows : List Row) : String :=
  String.join (rows.map (Row.print unit))

/-- The rows of a header: an opening brace after it stands on the same row, or
    on one of its own. -/
def headerRows (style : Style) (depth : Nat) (text : String) (braced : Bool) : List Row :=
  if braced then
    if style.openBraceOnNewLine then [⟨depth, text⟩, ⟨depth, braceOpen⟩]
    else [⟨depth, text ++ " " ++ braceOpen⟩]
  else [⟨depth, text⟩]

namespace Phrase

/-- Whether what follows a header is a block. -/
def isBraced : {k : Category} → Phrase k → Bool
  | _, armBlock _ | _, branchBlock _ => true
  | _, _ => false

/-- The rows of a phrase at a depth. Those of a block begin after its opening
    brace, and those of what follows a header begin after the header. -/
@[simp]
def rows (style : Style) : {k : Category} → Phrase k → Nat → List Row
  | _, block first rest, depth =>
    first.rows style (depth + 1) ++ rest.rows style (depth + 1) ++ [⟨depth, braceClose⟩]
  | _, simple e, depth => [⟨depth, e.text ++ ";"⟩]
  | _, guarded text _ e arm, depth =>
    headerRows style depth (text ++ " (" ++ e.text ++ ")") arm.isBraced ++ arm.rows style depth
  | _, loop e₁ e₂ e₃ arm, depth =>
    headerRows style depth
        ("for (" ++ e₁.text ++ "; " ++ e₂.text ++ "; " ++ e₃.text ++ ")") arm.isBraced ++
      arm.rows style depth
  | _, select e first rest, depth =>
    headerRows style depth ("switch (" ++ e.text ++ ")") true ++
      first.rows style (depth + 1) ++ rest.rows style (depth + 1) ++ [⟨depth, braceClose⟩]
  | _, attempt b handlers, depth =>
    headerRows style depth "try" true ++ b.rows style depth ++ handlers.rows style depth
  | _, action a, depth => a.rows style depth
  | _, conditional e arm, depth =>
    headerRows style depth ("if (" ++ e.text ++ ")") arm.isBraced ++ arm.rows style depth
  | _, armBlock b, depth | _, branchBlock b, depth => b.rows style depth
  | _, armBody b, depth => b.rows style (depth + 1)
  | _, branchSimple e, depth => [⟨depth + 1, e.text ++ ";"⟩]
  | _, catchOnly e b, depth =>
    headerRows style depth ("catch (" ++ e.text ++ ")") true ++ b.rows style depth
  | _, finallyOnly b, depth => headerRows style depth "finally" true ++ b.rows style depth
  | _, catchFinally e b b', depth =>
    headerRows style depth ("catch (" ++ e.text ++ ")") true ++ b.rows style depth ++
      headerRows style depth "finally" true ++ b'.rows style depth
  | _, noElse, _ => []
  | _, elseIf e branch rest, depth =>
    headerRows style depth ("else if (" ++ e.text ++ ")") branch.isBraced ++
      branch.rows style depth ++ rest.rows style depth
  | _, elseBlock b, depth => headerRows style depth "else" true ++ b.rows style depth
  | _, elseAction a, depth => ⟨depth, "else"⟩ :: a.rows style (depth + 1)
  | _, caseLabel e stmts, depth =>
    ⟨depth, "case " ++ e.text ++ ":"⟩ :: stmts.rows style (depth + 1)
  | _, defaultLabel stmts, depth => ⟨depth, "default:"⟩ :: stmts.rows style (depth + 1)
  | _, noLabels, _ | _, noStatements, _ => []
  | _, moreLabels first rest, depth => first.rows style depth ++ rest.rows style depth
  | _, body b, depth => b.rows style depth
  | _, standalone b, depth => ⟨depth, braceOpen⟩ :: b.rows style depth
  | _, chain e branch alternatives, depth =>
    headerRows style depth ("if (" ++ e.text ++ ")") branch.isBraced ++
      branch.rows style depth ++ alternatives.rows style depth
  | _, moreStatements first rest, depth => first.rows style depth ++ rest.rows style depth

end Phrase

end ScriptLayout.Program
