import ScriptLayout.Proofs.Loop.Grammar

/-!
# A grammar of branches

Programs made of statements with if, while and for, as syntax trees. An else belongs to the
innermost if that can have it, and the trees say so: the statement between an if and its
else cannot end in an if that has none (`Form.statement`).

A statement is found in a program by the way down to it (`Contains`), a step at a time
(`Part`).
-/

namespace ScriptLayout.Branch

open Layout Loop
open Program (Operand word mark inBraces braceOpen braceClose)

/-! ### Syntax -/

/-- The forms of phrases. -/
inductive Form where
  /-- A statement. One that is loose may end in an if without an else. -/
  | statement (loose : Bool)
  | statements
  deriving DecidableEq, Repr

/-- The phrases of each form. -/
inductive Phrase : Form → Type where
  /-- `e ;` -/
  | simple {loose : Bool} (e : Operand) : Phrase (.statement loose)
  /-- `{ first rest }` -/
  | block {loose : Bool} (first : Phrase (.statement true)) (rest : Phrase .statements) :
      Phrase (.statement loose)
  /-- `text ( c ) body` -/
  | headed {loose : Bool} (text : String) (h : text ∈ headerWords) (hl : text = "if" → loose)
      (c : Condition) (body : Phrase (.statement loose)) : Phrase (.statement loose)
  /-- `if ( c ) body else alternative` -/
  | branch {loose : Bool} (c : Condition) (body : Phrase (.statement false))
      (alternative : Phrase (.statement loose)) : Phrase (.statement loose)
  | none : Phrase .statements
  | more (first : Phrase (.statement true)) (rest : Phrase .statements) : Phrase .statements

namespace Phrase

/-- The lexemes of a phrase. -/
def lexemes : {k : Form} → Phrase k → List Lexeme
  | _, simple e => [e.toLexeme, mark .semicolon ";"]
  | _, block first rest => inBraces (first.lexemes ++ rest.lexemes)
  | _, headed text _ _ c body => word text :: (c.inParens ++ body.lexemes)
  | _, branch c body alternative =>
    word "if" :: (c.inParens ++ (body.lexemes ++ word "else" :: alternative.lexemes))
  | _, none => []
  | _, more first rest => first.lexemes ++ rest.lexemes

/-- Whether the phrase is a block. -/
def isBlock : {k : Form} → Phrase k → Bool
  | _, block _ _ => true
  | _, _ => false

/-- Whether the phrase is a statement that begins with an if. -/
def isIf : {k : Form} → Phrase k → Bool
  | _, headed text _ _ _ _ => text == "if"
  | _, branch _ _ _ => true
  | _, _ => false

end Phrase

/-! ### Phrases within phrases -/

/-- The first phrase is a part of the second one, after the lexemes `front` and before the
    lexemes `back` of it. -/
inductive Part : {k k' : Form} → Phrase k → Phrase k' → (front back : List Lexeme) → Prop
  | first {s : Phrase (.statement true)} {rest : Phrase .statements} :
      Part s (.more s rest) [] rest.lexemes
  | rest {s : Phrase (.statement true)} {rest : Phrase .statements} :
      Part rest (.more s rest) s.lexemes []
  | block {loose : Bool} {s : Phrase (.statement true)} {rest : Phrase .statements} :
      Part (.more s rest) (.block s rest : Phrase (.statement loose))
        [mark .openBrace braceOpen] [mark .closeBrace braceClose]
  | headed {loose : Bool} {text : String} {h : text ∈ headerWords} {hl : text = "if" → loose}
      {c : Condition} {body : Phrase (.statement loose)} :
      Part body (.headed text h hl c body) (word text :: c.inParens) []
  | body {loose : Bool} {c : Condition} {body : Phrase (.statement false)}
      {alternative : Phrase (.statement loose)} :
      Part body (.branch c body alternative) (word "if" :: c.inParens)
        (word "else" :: alternative.lexemes)
  | alternative {loose : Bool} {c : Condition} {body : Phrase (.statement false)}
      {alternative : Phrase (.statement loose)} :
      Part alternative (.branch c body alternative)
        (word "if" :: c.inParens ++ body.lexemes ++ [word "else"]) []

/-- The phrase `q` stands in the phrase `p`, after the lexemes `front` and before the lexemes
    `back` of it. -/
inductive Contains {k : Form} (p : Phrase k) :
    {k' : Form} → Phrase k' → (front back : List Lexeme) → Prop
  | self : Contains p p [] []
  | part {k' k'' : Form} {q : Phrase k'} {r : Phrase k''} {front back front' back' : List Lexeme} :
      Contains p q front back → Part r q front' back' →
      Contains p r (front ++ front') (back' ++ back)

theorem Part.lexemes_eq {k k' : Form} {r : Phrase k} {q : Phrase k'} {front back : List Lexeme}
    (h : Part r q front back) : q.lexemes = front ++ (r.lexemes ++ back) := by
  cases h <;> simp [Phrase.lexemes, inBraces]

/-- The lexemes of a phrase are those of a phrase in it and those around it. -/
theorem Contains.lexemes_eq {k k' : Form} {p : Phrase k} {q : Phrase k'} {front back : List Lexeme}
    (h : Contains p q front back) : p.lexemes = front ++ (q.lexemes ++ back) := by
  induction h with
  | self => rw [List.nil_append, List.append_nil]
  | part _ hpart ih => rw [ih, hpart.lexemes_eq]; simp only [List.append_assoc]

end ScriptLayout.Branch
