/-!
# Kinds of tokens

What a token is, as far as the layout is concerned. An operator is classified
by its role, which depends on what stands before it.
-/

namespace ScriptLayout

/-- The kinds of tokens. -/
inductive Kind where
  /-- A character that belongs to no other token. -/
  | unknown
  | openBrace
  | closeBrace
  | openParen
  | closeParen
  | openBracket
  | closeBracket
  /-- A name or a keyword. -/
  | symbol
  | string
  | number
  | regex
  | semicolon
  | comma
  | colon
  | dot
  | questionMark
  /-- An operator between two operands. -/
  | binaryOperator
  /-- An operator before its operand. -/
  | unaryPrefix
  /-- An operator after its operand. -/
  | unarySuffix
  /-- A comment that ends with its line. -/
  | lineComment
  /-- A comment that has an end of its own. -/
  | inlineComment
  deriving DecidableEq, Repr, Inhabited

namespace Kind

/-- Whether the token opens a pair of delimiters. -/
def isOpener : Kind → Bool
  | openBrace | openParen | openBracket => true
  | _ => false

/-- Whether the token closes a pair of delimiters. -/
def isCloser : Kind → Bool
  | closeBrace | closeParen | closeBracket => true
  | _ => false

/-- Whether the token is a comment. -/
def isComment : Kind → Bool
  | lineComment | inlineComment => true
  | _ => false

/-- The name of a kind in listings of tokens. -/
def name : Kind → String
  | unknown => "unknown"
  | openBrace => "open-brace"
  | closeBrace => "close-brace"
  | openParen => "open-paren"
  | closeParen => "close-paren"
  | openBracket => "open-bracket"
  | closeBracket => "close-bracket"
  | symbol => "symbol"
  | string => "string"
  | number => "number"
  | regex => "regex"
  | semicolon => "semicolon"
  | comma => "comma"
  | colon => "colon"
  | dot => "dot"
  | questionMark => "question-mark"
  | binaryOperator => "binary-operator"
  | unaryPrefix => "unary-prefix"
  | unarySuffix => "unary-suffix"
  | lineComment => "line-comment"
  | inlineComment => "inline-comment"

/-- The name of a kind as one word: its parts capitalised and run together. -/
def label (k : Kind) : String :=
  String.join ((k.name.splitOn "-").map String.capitalize)

end Kind

end ScriptLayout
