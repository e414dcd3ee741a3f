import ScriptLayout.Proofs.Program.Grammar

/-!
# A grammar of loops

Programs made of statements around conditions of any length, as syntax trees: a `Phrase` is
a statement or a sequence of statements. A header is if, while or for, and a do loop ends
in a while with its condition and a semicolon, as `do body while ( condition ) ;`. So a
while may begin a statement or end one, and the tree says which.
-/

namespace ScriptLayout.Loop

open Layout Program

/-! ### Conditions -/

/-- The kinds of the lexemes of a condition, besides parentheses. -/
def conditionKinds : List Kind :=
  [.unknown, .openBracket, .closeBracket, .symbol, .string, .number, .regex, .semicolon, .comma,
    .colon, .dot, .questionMark, .binaryOperator, .unaryPrefix, .unarySuffix]

/-- Lexemes with their parentheses in pairs, and with no braces, comments or labels. -/
inductive Balanced : List Lexeme → Prop
  | nil : Balanced []
  | plain {t : Lexeme} {ts : List Lexeme} : t.kind ∈ conditionKinds → isLabel t.text = false →
      Balanced ts → Balanced (t :: ts)
  | group {ts ts' : List Lexeme} : Balanced ts → Balanced ts' →
      Balanced (mark .openParen "(" :: (ts ++ mark .closeParen ")" :: ts'))

/-- What stands in the parentheses of a header or at the end of a loop. -/
structure Condition where
  /-- Its lexemes. -/
  lexemes : List Lexeme
  /-- They leave no parenthesis open. -/
  balanced : Balanced lexemes

/-- The condition in its parentheses. -/
def Condition.inParens (c : Condition) : List Lexeme :=
  mark .openParen "(" :: (c.lexemes ++ [mark .closeParen ")"])

/-! ### Syntax -/

/-- The forms of phrases. -/
inductive Form where
  | statement
  | statements
  deriving DecidableEq, Repr

/-- The words of headers. -/
def headerWords : List String :=
  ["if", "while", "for"]

/-- The phrases of each form. -/
inductive Phrase : Form → Type where
  /-- `e ;` -/
  | simple (e : Operand) : Phrase .statement
  /-- `{ body }` -/
  | block (body : Phrase .statements) : Phrase .statement
  /-- `word ( c ) body` -/
  | headed (word : String) (h : word ∈ headerWords) (c : Condition) (body : Phrase .statement) :
      Phrase .statement
  /-- `do body while ( c ) ;` -/
  | loop (body : Phrase .statement) (c : Condition) : Phrase .statement
  | none : Phrase .statements
  | more (first : Phrase .statement) (rest : Phrase .statements) : Phrase .statements

namespace Phrase

/-- The lexemes of a phrase. -/
def lexemes : {k : Form} → Phrase k → List Lexeme
  | _, simple e => [e.toLexeme, mark .semicolon ";"]
  | _, block body => inBraces body.lexemes
  | _, headed text _ c body => word text :: (c.inParens ++ body.lexemes)
  | _, loop body c =>
    word "do" :: (body.lexemes ++ (word "while" :: (c.inParens ++ [mark .semicolon ";"])))
  | _, none => []
  | _, more first rest => first.lexemes ++ rest.lexemes

/-- Whether the phrase is a block. -/
def isBlock : {k : Form} → Phrase k → Bool
  | _, block _ => true
  | _, _ => false

/-- Whether the phrase comes down to a block with nothing in it: it is one, or it is a
    header or a loop whose body comes down to one. -/
def isHollow : {k : Form} → Phrase k → Bool
  | _, block none => true
  | _, headed _ _ _ body | _, loop body _ => body.isHollow
  | _, _ => false

end Phrase

/-- The statement `s` stands in a phrase, after the lexemes `front` and before the lexemes
    `back` of the phrase. -/
inductive Within (s : Phrase .statement) :
    {k : Form} → Phrase k → (front back : List Lexeme) → Prop
  | self : Within s s [] []
  | block {body : Phrase .statements} {front back : List Lexeme} : Within s body front back →
      Within s (.block body) (mark .openBrace braceOpen :: front)
        (back ++ [mark .closeBrace braceClose])
  | headed {text : String} {h : text ∈ headerWords} {c : Condition} {body : Phrase .statement}
      {front back : List Lexeme} : Within s body front back →
      Within s (.headed text h c body) (word text :: (c.inParens ++ front)) back
  | loop {body : Phrase .statement} {c : Condition} {front back : List Lexeme} :
      Within s body front back → Within s (.loop body c) (word "do" :: front)
        (back ++ (word "while" :: (c.inParens ++ [mark .semicolon ";"])))
  | first {first : Phrase .statement} {rest : Phrase .statements} {front back : List Lexeme} :
      Within s first front back → Within s (.more first rest) front (back ++ rest.lexemes)
  | rest {first : Phrase .statement} {rest : Phrase .statements} {front back : List Lexeme} :
      Within s rest front back → Within s (.more first rest) (first.lexemes ++ front) back

/-- The lexemes of a phrase are those of a statement in it and those around it. -/
theorem Within.lexemes_eq {s : Phrase .statement} {k : Form} {p : Phrase k}
    {front back : List Lexeme} (h : Within s p front back) :
    p.lexemes = front ++ (s.lexemes ++ back) := by
  induction h <;> simp [Phrase.lexemes, inBraces, *]

theorem Within.lexemes_append {s : Phrase .statement} {k : Form} {p : Phrase k}
    {front back : List Lexeme} (h : Within s p front back) (rest : List Lexeme) :
    p.lexemes ++ rest = front ++ (s.lexemes ++ (back ++ rest)) := by
  rw [h.lexemes_eq, List.append_assoc, List.append_assoc]

end ScriptLayout.Loop
