/-!
# Written tabs

How a tab is written where a tab itself would be lost on the reader: as a
backslash and the letter t. There are no other escapes, so that a backslash
before anything else stands for itself.
-/

namespace ScriptLayout.Text

/-- The text with every written tab, from left to right, made a tab. -/
def unescapeTabs : List Char → List Char
  | [] => []
  | [c] => [c]
  | c :: d :: text =>
    if c = '\\' ∧ d = 't' then '\t' :: unescapeTabs text else c :: unescapeTabs (d :: text)

/-- The text with every tab written out. -/
def escapeTabs : List Char → List Char
  | [] => []
  | c :: text => if c = '\t' then '\\' :: 't' :: escapeTabs text else c :: escapeTabs text

end ScriptLayout.Text
