import ScriptLayout.Layout.Scope
import ScriptLayout.Token.Kind

/-!
# The state of a layout

What has to be remembered of the tokens placed so far in order to place the
next one: the open scopes, what is known about the line being written, the open
delimiters on it, how the next token joins the text, and the kind of the token
before it. The state does not hold the text itself, and nothing in it depends on
the places of the tokens in their source.
-/

namespace ScriptLayout.Layout

/-- What is known about the line being written. -/
structure Line where
  /-- A keyword whose block or parenthesis follows stands on the line. -/
  blockHeader : Bool := false
  /-- A do stands on the line. -/
  doHeader : Bool := false
  /-- The body of a do loop has just been closed. -/
  doClosed : Bool := false
  /-- A label of a switch stands on the line, and its colon has yet to come. -/
  caseHeader : Bool := false
  /-- A colon that is not part of a conditional stands on the line, as after a key. -/
  objectColon : Bool := false
  /-- The question mark of a conditional stands on the line. -/
  ternary : Bool := false
  deriving DecidableEq, Repr

/-- How the next token joins the text written so far. -/
inductive Seam where
  /-- There is no text yet. -/
  | start
  /-- The line goes on. -/
  | joined
  /-- The line ends here, and the token begins the next one. -/
  | broken
  /-- The line goes on with the comment that trails the statement just ended. -/
  | remark
  /-- The token is the closing brace of a pair with nothing in it, and follows
      the opening one at once. -/
  | emptyPair
  /-- The token is the comma after such a pair, and follows it at once. -/
  | emptyItem
  deriving DecidableEq, Repr

/-- What has to be remembered of the tokens placed so far. -/
structure State where
  /-- The open scopes. -/
  scopes : Scopes := {}
  /-- What is known about the line being written. -/
  line : Line := {}
  /-- Whether the next line will begin with the body of a do loop just closed. -/
  doClosedNext : Bool := false
  /-- The number of parentheses open on the line. -/
  parens : Nat := 0
  /-- The number of brackets open on the line. -/
  brackets : Nat := 0
  /-- How the next token joins the text. -/
  seam : Seam := .start
  /-- The kind of the token placed last. -/
  previous : Kind := .unknown
  deriving DecidableEq, Repr

namespace State

/-- Nothing is known about a new line, but for the do loop closed before it;
    delimiters do not stay open across lines. -/
def newLine (st : State) : State :=
  { st with
    line := { doClosed := st.doClosedNext }, doClosedNext := false, parens := 0, brackets := 0 }

/-- The state with a scope opened. -/
def push (st : State) (scope : Scope) : State :=
  { st with scopes := st.scopes.push scope }

/-- The state with the innermost scope closed. -/
def pop (st : State) : State :=
  { st with scopes := st.scopes.pop }

/-- The state with the innermost single statements closed. -/
def closeSingles (st : State) : State :=
  { st with scopes := st.scopes.closeSingles }

/-- The state in which the next token joins in the given way. -/
def join (st : State) (seam : Seam) : State :=
  { st with seam }

end State

end ScriptLayout.Layout
