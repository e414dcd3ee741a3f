/-!
# String literals

A string goes from a quote, single or double, to the next such quote that does
not belong to an escape. A backslash takes along a backslash, or such a quote,
that comes after it. The other quote and line breaks have no effect, and a string
that is never closed goes to the end of the text.
-/

namespace ScriptLayout.Lexeme

/-- Whether a character opens a string. -/
def isQuote (c : Char) : Bool :=
  c == '"' || c == '\x27'

/-- The number of characters from within a string through its closing quote. -/
def closingExtent (quote : Char) : List Char → Nat
  | [] => 0
  | [_] => 1
  | c :: d :: text =>
    if c = quote then 1
    else if c = '\\' ∧ (d = '\\' ∨ d = quote) then 2 + closingExtent quote text
    else 1 + closingExtent quote (d :: text)

/-- The number of characters of the string that the quote and the text form. -/
def stringExtent (quote : Char) (text : List Char) : Nat :=
  1 + closingExtent quote text

end ScriptLayout.Lexeme
