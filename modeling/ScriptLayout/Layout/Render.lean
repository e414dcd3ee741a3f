import ScriptLayout.Layout.Placing

/-!
# Writing a layout

How the placings of the tokens become a text, once it is settled what a level
of indentation consists of. The text is built from its end: the characters
written so far stand in reverse order, so that a level is taken back where it
was written. Taking back looks at the text alone; it does nothing where the
text does not end in a level.
-/

namespace ScriptLayout.Layout

/-- The text written so far, its last character first, after one more mark. -/
def Mark.write (unit : List Char) (written : List Char) : Mark → List Char
  | .space => ' ' :: written
  | .line depth => (List.replicate depth unit.reverse).flatten ++ '\n' :: written
  | .dedent => if unit.reverse.isPrefixOf written then written.drop unit.length else written

/-- The text written so far, its last character first, after one more token. -/
def Placing.write (unit : List Char) (written : List Char) (p : Placing) : List Char :=
  p.text.toList.reverseAux (p.gap.foldl (Mark.write unit) written)

/-- The text of a layout: the tokens with their gaps, and a line break. -/
def render (unit : String) (layout : List Placing) : String :=
  String.ofList ('\n' :: layout.foldl (Placing.write unit.toList) []).reverse

end ScriptLayout.Layout
