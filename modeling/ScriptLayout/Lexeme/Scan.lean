import ScriptLayout.Lexeme.Number
import ScriptLayout.Lexeme.Operator
import ScriptLayout.Lexeme.Quoted
import ScriptLayout.Lexeme.Regex
import ScriptLayout.Lexeme.Word

/-!
# The lexeme at a place

What token a text starts with, given the token before it: `measure` finds its
kind and how many characters it takes, at least one (`measure_pos`). The forms
are tried in order, so that a slash is an operator only if it begins neither a
comment nor a regular expression, and a point only if it begins no number.
-/

namespace ScriptLayout.Lexeme

/-- The kind of the token before, if there is one. -/
def kindOf (previous : Option Lexeme) : Kind :=
  (previous.map Lexeme.kind).getD .unknown

/-- The kind and the number of characters of the operator that a text starts with. -/
def measureOperator (previous : Option Lexeme) (c : Char) (rest : List Char) : Kind × Nat :=
  match punctuation? c with
  | some kind => (kind, 1)
  | none =>
    let extent := operatorExtent (c :: rest)
    (operatorKind ((c :: rest).take extent) (kindOf previous), extent)

/-- The kind and the number of characters of the token that a text starts with.
    The text begins with a character that is not blank. -/
def measure (previous : Option Lexeme) (c : Char) (rest : List Char) : Kind × Nat :=
  if isWordStart c then (.symbol, wordExtent (c :: rest))
  else if c = '/' ∧ rest.head? = some '/' then (.lineComment, lineCommentExtent (c :: rest))
  else if c = '/' ∧ rest.head? = some '*' then (.inlineComment, inlineCommentExtent rest.tail)
  else if isQuote c then (.string, stringExtent c rest)
  else if c.isDigit ∨ c = '.' ∧ rest.head?.any Char.isDigit then
    (.number, numberExtent (c :: rest))
  else if c = '/' ∧ regexAllowed previous then (.regex, regexExtent rest)
  else if isOperatorStart c then measureOperator previous c rest
  else (.unknown, 1)

/-- Every token takes at least one character. -/
theorem measure_pos (previous : Option Lexeme) (c : Char) (rest : List Char) :
    0 < (measure previous c rest).2 := by
  unfold measure
  split
  · next h => exact wordExtent_pos rest h
  split
  · next h => obtain ⟨rfl, -⟩ := h; exact lineCommentExtent_pos rest
  split
  · exact inlineCommentExtent_pos _
  split
  · exact Nat.lt_of_lt_of_le Nat.one_pos (Nat.le_add_right ..)
  split
  · next h => exact numberExtent_pos rest (h.imp_right And.left)
  split
  · exact Nat.lt_of_lt_of_le Nat.one_pos (Nat.le_add_right ..)
  split
  · unfold measureOperator
    split
    · exact Nat.one_pos
    · exact operatorExtent_pos _
  · exact Nat.one_pos

end ScriptLayout.Lexeme
