import ScriptLayout.Token.Kind

/-!
# Lexemes

A token without its place: the kind and the text. The lexemes of a source are
all that its layout depends on.
-/

namespace ScriptLayout

/-- The kind and the text of a token. -/
structure Lexeme where
  /-- What the token is. -/
  kind : Kind
  /-- The characters of the token, as they stand in the source. -/
  text : String
  deriving DecidableEq, Repr

namespace Lexeme

/-- Whether the token is the given name or keyword. -/
def isWord (t : Lexeme) (word : String) : Bool :=
  t.kind == .symbol && t.text == word

end Lexeme

end ScriptLayout
