import ScriptLayout.Layout.Place
import ScriptLayout.Layout.Render
import ScriptLayout.Lexer

/-!
# Formatting

The tokens of a source, read one by one with a look at the next one, are placed
in turn (`placings`); the layout so found is then written with the given text
for a level of indentation (`format`).
-/

namespace ScriptLayout

namespace Layout

/-- Places the tokens that a lexer still delivers. -/
def placingsFrom (style : Style) (st : State) (l : Lexer) :
    Except LookaheadPending (List Placing) :=
  match _hn : l.next? with
  | none => .ok []
  | some (t, l') =>
    match _hp : l'.peek with
    | .error fault => .error fault
    | .ok (next, l'') =>
      let p := place style st t.toLexeme (next.map Token.toLexeme)
      (placingsFrom style p.after l'').map (p :: ·)
termination_by l.remaining
decreasing_by
  exact Nat.lt_of_le_of_lt (Lexer.remaining_of_peek _hp) (Lexer.remaining_of_next? _hn).1

/-- Places the tokens of a source. -/
def placings (style : Style) (source : String) : Except LookaheadPending (List Placing) :=
  placingsFrom style {} (.ofString source)

end Layout

/-- Lays out a source. -/
def format (options : Options) (source : String) : Except LookaheadPending String :=
  (Layout.placings options.toStyle source).map (Layout.render options.indent)

end ScriptLayout
