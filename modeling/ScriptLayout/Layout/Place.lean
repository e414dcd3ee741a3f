import ScriptLayout.Layout.Placing
import ScriptLayout.Lexeme
import ScriptLayout.Options

/-!
# Placing a token

One rule for each kind of token, deciding the gap before it and the state after
it. All structure is inferred from the flow of tokens: keywords, delimiters,
labels and a few patterns of colons and brackets open and close scopes, and the
kind or the text of the next token settles what the current one leaves open.
-/

namespace ScriptLayout.Layout

/-- The keywords that a block or a single statement follows. -/
def blockKeywords : List String :=
  ["catch", "do", "finally", "for", "if", "switch", "try", "while", "with"]

/-- Whether a word opens a block or a single statement. An else does, unless an
    if follows, which then does in its stead. -/
def opensBlock (word : String) (next : Option Lexeme) : Bool :=
  blockKeywords.contains word || (word == "else" && next.map Lexeme.text != some "if")

/-- Whether a word is a label of a switch. -/
def isLabel (word : String) : Bool :=
  word == "case" || word == "default"

/-- Whether the next token is of one of the given kinds. -/
def nextIn (next : Option Lexeme) (kinds : List Kind) : Bool :=
  next.any fun t => kinds.contains t.kind

/-! ### Delimiters -/

/-- The scope that a brace opens on a line. -/
def Line.braceScope (line : Line) : Scope :=
  if line.doHeader then .doBlock else if line.caseHeader then .caseBody else .block

/-- An opening brace ends its line, unless the closing one follows. -/
def openBrace (style : Style) (next : Option Lexeme) (d : Draft) : Draft × State :=
  let d :=
    if style.openBraceOnNewLine && !d.first then d.newline
    else d.spaceUnlessAfter [.openParen, .openBracket]
  let st := d.state
  (d, if nextIn next [.closeBrace] then st.join .emptyPair
    else (st.push st.line.braceScope).join .broken)

/-- The closing brace of a pair with nothing in it ends the line, unless a
    semicolon or a comma follows. -/
def closeEmptyPair (next : Option Lexeme) (d : Draft) : Draft × State :=
  (d, if nextIn next [.semicolon] then d.state
    else if nextIn next [.comma] then d.state.join .emptyItem
    else d.state.closeSingles.join .broken)

/-- The state after a closing brace. Single statements that it ends are closed
    too, unless the next token continues the statement they are part of. The line
    ends, unless the next token belongs on it, or the brace ends a do loop, whose
    condition follows. -/
def afterCloseBrace (next : Option Lexeme) (st : State) : State :=
  let continued := next.any fun t => ["catch", "finally", ":"].contains t.text
  let st := if continued then st else st.closeSingles
  let st :=
    if st.scopes.closed.isDo then { st with line := { st.line with doClosed := true } } else st
  if nextIn next [.semicolon, .closeParen, .closeBracket, .comma, .openParen, .colon] ||
      st.line.doClosed then st
  else st.join .broken

/-- A closing brace begins a line, one level further out, and closes the body of
    a label with the block of the switch. -/
def closeBrace (next : Option Lexeme) (d : Draft) : Draft × State :=
  let d :=
    if d.state.scopes.current = .caseBody then
      let d := d.update State.pop
      if d.first then d.dedent else d
    else d
  let d := d.update fun st => st.closeSingles.pop
  -- A line begun before the brace was known is indented for the block it closes.
  let d := if d.first then d.dedent else d.newline
  (d, afterCloseBrace next d.state)

/-- An opening parenthesis stands apart from a keyword, and close to a name. -/
def openParen (d : Draft) : Draft × State :=
  let st := d.state
  let header := st.line.blockHeader && st.parens == 0
  let close : List Kind := [.openParen, .unaryPrefix, .closeBracket, .closeParen, .closeBrace]
  let d := d.spaceUnlessAfter (if header then close else .symbol :: close)
  (d, { d.state with parens := st.parens + 1 })

/-- A closing parenthesis may end the header of a single statement. -/
def closeParen (next : Option Lexeme) (d : Draft) : Draft × State :=
  let st := { d.state with parens := d.state.parens - 1 }
  (d, if st.parens = 0 ∧ st.line.blockHeader ∧ !nextIn next [.openBrace] then
      (st.push .single).join .broken
    else st)

/-- An opening bracket ends its line if a list of objects follows as the value
    of a key. -/
def openBracket (style : Style) (next : Option Lexeme) (d : Draft) : Draft × State :=
  let st := d.state
  let isList := st.line.objectColon && nextIn next [.openBrace] && st.parens == 0
  let d := d.spaceUnlessAfter [.symbol, .openParen, .closeParen, .closeBracket]
  let d := if isList && style.openBraceOnNewLine then d.newline else d
  let st := { d.state with brackets := d.state.brackets + 1 }
  (d, if isList then (st.push .objectList).join .broken else st)

/-- A closing bracket begins a line if it ends a list of objects. -/
def closeBracket (d : Draft) : Draft × State :=
  let d := d.update fun st => { st with brackets := st.brackets - 1 }
  let d :=
    if d.state.scopes.current = .objectList then
      let d := d.update State.pop
      if d.first then d.dedent else d.newline
    else d
  (d, d.state)

/-! ### Words and operands -/

/-- The state after a word that opens a block or a single statement. The while
    that ends a do loop opens nothing. -/
def afterBlockWord (word : String) (next : Option Lexeme) (st : State) : State :=
  if st.line.doClosed && word == "while" then st
  else
    let st := if word == "do" then { st with line := { st.line with doHeader := true } } else st
    if nextIn next [.openBrace, .openParen] then
      { st with line := { st.line with blockHeader := true } }
    else (st.push (if st.line.doHeader then .doSingle else .single)).join .broken

/-- A word may be a keyword that opens a scope, or a label that closes the body
    of the one before. -/
def symbol (style : Style) (word : String) (next : Option Lexeme) (d : Draft) : Draft × State :=
  let d :=
    if word == "function" && style.newlineBetweenFunctions && d.state.previous == .closeBrace then
      d.newline
    else d
  -- Labels of one switch stand at one depth.
  let d :=
    if isLabel word && d.state.scopes.current = .caseBody then
      (if d.first then d.dedent else d).update State.pop
    else d
  if d.state.parens = 0 ∧ opensBlock word next then
    let d := d.spaceUnlessAfter []
    (d, afterBlockWord word next d.state)
  else
    let d := d.spaceUnlessAfter [.openParen, .openBracket, .unaryPrefix, .dot]
    let st := d.state
    (d, if isLabel word then { st with line := { st.line with caseHeader := true } } else st)

/-- Operands and the operators before and between them stand apart. -/
def operand (d : Draft) : Draft × State :=
  let d := d.spaceUnlessAfter [.openParen, .openBracket, .unaryPrefix]
  (d, d.state)

/-! ### Punctuation -/

/-- A semicolon ends the statement, and the single statements that it is in,
    unless it stands in the header of a loop. A comment that follows stays with
    the statement. -/
def semicolon (next : Option Lexeme) (d : Draft) : Draft × State :=
  if 0 < d.state.parens then (d, d.state)
  else
    let st := d.state.closeSingles
    -- The condition of a do loop begins the next line, where it must open nothing.
    let st := { st with doClosedNext := st.doClosedNext || st.scopes.closed.isDo }
    (d, st.join (if nextIn next [.lineComment, .inlineComment] then .remark else .broken))

/-- A comma ends the line after a block, and after an entry of an object. -/
def comma (d : Draft) : Draft × State :=
  let st := d.state
  let entry := st.line.objectColon && st.parens == 0 && st.brackets == 0 && 0 < st.scopes.depth
  (d, if st.previous == .closeBrace || entry then st.join .broken else st)

/-- A colon ends the label of a switch; elsewhere it stands apart in a
    conditional and after a block. -/
def colon (d : Draft) : Draft × State :=
  let line := d.state.line
  if line.caseHeader then (d, (d.state.push .caseBody).join .broken)
  else
    let d := if !d.first && (line.ternary || d.state.previous == .closeBrace) then d.space else d
    let st := d.state
    (d, if line.ternary then st else { st with line := { line with objectColon := true } })

/-- A question mark stands apart, and begins a conditional. -/
def questionMark (d : Draft) : Draft × State :=
  let d := d.update fun st => { st with line := { st.line with ternary := true } }
  let d := d.spaceUnlessAfter []
  (d, d.state)

/-- Whether a comment of the given kind begins a line. -/
def beginsLine (style : Style) (kind : Kind) : Bool :=
  if kind = .lineComment then style.newlineBeforeLineComment else style.newlineBeforeInlineComment

/-- A comment begins a line, or stands apart. It ends the line if it is a line
    comment, or trails a statement, or if it is to do so always. -/
def comment (style : Style) (kind : Kind) (trailing : Bool) (d : Draft) : Draft × State :=
  let d := if d.first then d else if beginsLine style kind then d.newline else d.space
  let ends := trailing || kind == .lineComment || style.newlineAfterInlineComment
  (d, if ends then d.state.join .broken else d.state)

/-! ### All tokens -/

/-- The gap before a token and the state after it, by the rule for its kind. -/
def rule (style : Style) (seam : Seam) (t : Lexeme) (next : Option Lexeme) (d : Draft) :
    Draft × State :=
  match t.kind with
  | .openBrace => openBrace style next d
  | .closeBrace => closeBrace next d
  | .openParen => openParen d
  | .closeParen => closeParen next d
  | .openBracket => openBracket style next d
  | .closeBracket => closeBracket d
  | .symbol => symbol style t.text next d
  | .string | .number | .regex | .binaryOperator | .unaryPrefix => operand d
  | .semicolon => semicolon next d
  | .comma => comma d
  | .colon => colon d
  | .questionMark => questionMark d
  | .lineComment | .inlineComment => comment style t.kind (seam == .remark) d
  | .dot | .unarySuffix | .unknown => (d, d.state)

/-- Places a token, given the one after it. In a pair of braces with nothing in
    it and at a comma right after one, the seam overrides the rule. -/
def place (style : Style) (st : State) (t : Lexeme) (next : Option Lexeme) : Placing :=
  let (d, after) :=
    match st.seam with
    | .emptyPair => closeEmptyPair next (.ofState st)
    | .emptyItem => (.ofState st, st.join .joined)
    | seam => rule style seam t next (.ofState st)
  { d with text := t.text, after := { after with previous := t.kind } }

end ScriptLayout.Layout
