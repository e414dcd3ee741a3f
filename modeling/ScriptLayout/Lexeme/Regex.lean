import ScriptLayout.Lexeme
import ScriptLayout.Lexeme.Comment
import ScriptLayout.Text.Alphabetic

/-!
# Regular expression literals

A regular expression goes from a slash to the next slash that is neither
escaped nor inside a class, and takes the letters after it as flags. A class
goes from an opening bracket to a closing one; a backslash escapes itself, a
slash and a bracket. An expression that is not closed on its line ends with the
line, which it does not contain.

A slash begins an expression where no value can be divided: this is decided by
the token before it alone (`regexAllowed`).
-/

namespace ScriptLayout.Lexeme

/-- Whether a backslash escapes this character in a regular expression. -/
def isRegexEscape (c : Char) : Bool :=
  c == '\\' || c == '/' || c == '[' || c == ']'

/-- Whether a class is open after this character, when it was before or not. -/
def classAfter (inClass : Bool) (c : Char) : Bool :=
  if c = '[' then true else if c = ']' then false else inClass

/-- The number of characters from within a regular expression, in a class or
    not, to its end. -/
def regexTail (inClass : Bool) : List Char → Nat
  | [] => 0
  | [c] => if isLineBreak c then 0 else 1
  | c :: d :: text =>
    if isLineBreak c then 0
    else if c = '/' ∧ inClass = false then 1 + ((d :: text).takeWhile Text.isAlphabetic).length
    else if c = '\\' ∧ isRegexEscape d then 2 + regexTail inClass text
    else 1 + regexTail (classAfter inClass c) (d :: text)

/-- The number of characters of the regular expression of a slash and a text. -/
def regexExtent (text : List Char) : Nat :=
  1 + regexTail false text

/-- Whether a slash after this token begins a regular expression: not after
    what ends a value, nor after a dot. A word is a value unless it is one of
    those that a value follows. -/
def regexAllowed : Option Lexeme → Bool
  | none => true
  | some t =>
    match t.kind with
    | .closeParen | .closeBracket | .string | .number | .regex | .dot | .unarySuffix => false
    | .symbol => t.text == "return" || t.text == "yield"
    | _ => true

end ScriptLayout.Lexeme
