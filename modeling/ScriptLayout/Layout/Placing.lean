import ScriptLayout.Layout.State

/-!
# Placings

What is written before a token: spaces, line breaks, and levels of indentation
taken back. The levels are counted, not spelled, so that the placing of a token
does not depend on what a level consists of (`Layout.render` spells them).
-/

namespace ScriptLayout.Layout

/-- A piece of the gap before a token. -/
inductive Mark where
  /-- A space. -/
  | space
  /-- A line break, and as many levels of indentation. -/
  | line (depth : Nat)
  /-- One level of indentation less. -/
  | dedent
  deriving DecidableEq, Repr

/-- The gap before a token while it is being decided. -/
structure Draft where
  /-- What is written before the token. -/
  gap : List Mark
  /-- Whether the token was to begin a line, or the text, in the first place. -/
  first : Bool
  /-- The state with the gap written. -/
  state : State
  deriving DecidableEq, Repr

/-- A token with the gap before it. -/
structure Placing extends Draft where
  /-- The characters of the token. -/
  text : String
  /-- The state with the token written. -/
  after : State
  deriving DecidableEq, Repr

namespace Draft

/-- Breaks the line. -/
def newline (d : Draft) : Draft :=
  { d with gap := d.gap ++ [.line d.state.scopes.depth], state := d.state.newLine }

/-- Leaves a space. -/
def space (d : Draft) : Draft :=
  { d with gap := d.gap ++ [.space] }

/-- Takes back one level of indentation. -/
def dedent (d : Draft) : Draft :=
  { d with gap := d.gap ++ [.dedent] }

/-- Changes the state without writing anything. -/
def update (d : Draft) (f : State → State) : Draft :=
  { d with state := f d.state }

/-- Leaves a space within a line, but not after the given kinds of tokens. -/
def spaceUnlessAfter (d : Draft) (kinds : List Kind) : Draft :=
  if d.first || kinds.contains d.state.previous then d else d.space

/-- The gap that the seam alone calls for. The line goes on from here. -/
def ofState (st : State) : Draft :=
  match st.seam with
  | .start => ⟨[], true, st.join .joined⟩
  | .broken => newline ⟨[], true, st.join .joined⟩
  | .joined | .remark | .emptyPair | .emptyItem => ⟨[], false, st.join .joined⟩

end Draft

end ScriptLayout.Layout
