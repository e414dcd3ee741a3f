/-!
# Scopes

What a line is indented for: every open scope is one level. A scope says how it
was opened, which decides how it is closed. Scopes of a single statement have no
delimiter of their own; they all end together with the statement
(`Scopes.closeSingles`).
-/

namespace ScriptLayout.Layout

/-- What opened a scope. -/
inductive Scope where
  /-- A brace. -/
  | block
  /-- The brace of the body of a do loop. -/
  | doBlock
  /-- A header whose body is one statement without braces. -/
  | single
  /-- A do whose body is one statement without braces. -/
  | doSingle
  /-- A label of a switch, or a brace on the line of one. -/
  | caseBody
  /-- The bracket of a list of objects. -/
  | objectList
  deriving DecidableEq, Repr

namespace Scope

/-- Whether the scope is a statement without braces. -/
def isSingle : Scope → Bool
  | single | doSingle => true
  | _ => false

/-- Whether the scope is the body of a do loop. -/
def isDo : Scope → Bool
  | doBlock | doSingle => true
  | _ => false

end Scope

/-- The open scopes, and the one closed last. -/
structure Scopes where
  /-- The open scopes, the innermost first. -/
  inner : List Scope := []
  /-- The scope closed last; a block if there was none to close. -/
  closed : Scope := .block
  deriving DecidableEq, Repr

namespace Scopes

/-- The number of open scopes. -/
def depth (s : Scopes) : Nat :=
  s.inner.length

/-- The innermost open scope; outside of all it is as in a block. -/
def current (s : Scopes) : Scope :=
  s.inner.headD .block

/-- Opens a scope within the others. -/
def push (s : Scopes) (scope : Scope) : Scopes :=
  { s with inner := scope :: s.inner }

/-- Closes the innermost scope, if there is one. -/
def pop (s : Scopes) : Scopes :=
  ⟨s.inner.tail, s.current⟩

/-- Closes the innermost scopes as long as they are single statements. Where
    there are none, the scope closed last stays what it was. -/
def closeSingles (s : Scopes) : Scopes :=
  go s.inner s.closed
where
  /-- The same, given the open scopes and the one closed last. -/
  go : List Scope → Scope → Scopes
    | [], closed => ⟨[], closed⟩
    | scope :: inner, closed => if scope.isSingle then go inner scope else ⟨scope :: inner, closed⟩

@[simp]
theorem depth_push (s : Scopes) (scope : Scope) : (s.push scope).depth = s.depth + 1 := rfl

@[simp]
theorem depth_pop (s : Scopes) : s.pop.depth = s.depth - 1 := by
  simp [pop, depth]

end Scopes

end ScriptLayout.Layout
