/-!
# Words

Names and keywords: runs of ASCII letters, digits, underscores and dollar signs
that do not start with a digit. Which words are keywords is no concern of the
lexer.
-/

namespace ScriptLayout.Lexeme

/-- Whether a word may start with this character. -/
def isWordStart (c : Char) : Bool :=
  c.isAlpha || c == '_' || c == '$'

/-- Whether a word may go on with this character. -/
def isWordPart (c : Char) : Bool :=
  isWordStart c || c.isDigit

/-- The number of characters of the word that a text starts with. -/
def wordExtent (text : List Char) : Nat :=
  (text.takeWhile isWordPart).length

theorem wordExtent_pos {c : Char} (text : List Char) (h : isWordStart c) :
    0 < wordExtent (c :: text) := by
  simp [wordExtent, isWordPart, h]

end ScriptLayout.Lexeme
