import ScriptLayout.Position
import ScriptLayout.Text.Search

/-!
# Cursors

A cursor stands between the characters of a text: those behind it have been
read, those ahead have not. It moves forward only, either character by
character (`advance`, and what is made of it) or by a jump over a piece of text
found by searching (`skipTo`, `skipToAny`), and knows its position at any time.
Every operation is defined everywhere; at the end of the text nothing moves. No
move changes the text that lies behind and ahead together (`source_advanceBy`,
`source_jump`).
-/

namespace ScriptLayout

/-- A place between the characters of a text. -/
structure Cursor where
  /-- The characters before the cursor, the nearest first. -/
  behind : List Char
  /-- The characters after the cursor, the nearest first. -/
  ahead : List Char
  /-- Where in the text the cursor stands. -/
  position : Position
  deriving DecidableEq, Repr

namespace Cursor

/-- A cursor at the start of a text. -/
def ofList (text : List Char) : Cursor :=
  ⟨[], text, .start⟩

/-- A cursor at the start of a string. -/
def ofString (text : String) : Cursor :=
  ofList text.toList

/-- The whole text, read and unread. -/
def source (c : Cursor) : List Char :=
  c.behind.reverse ++ c.ahead

/-! ### Looking ahead -/

/-- Whether nothing is left to read. -/
def atEnd (c : Cursor) : Bool :=
  c.ahead.isEmpty

/-- The next character. -/
def peek (c : Cursor) : Option Char :=
  c.ahead.head?

/-- The character `n` places after the next one. -/
def peekNth (c : Cursor) (n : Nat) : Option Char :=
  c.ahead[n]?

/-- Whether there is a next character, and it satisfies `p`. -/
def check (c : Cursor) (p : Char → Bool) : Bool :=
  c.peek.any p

/-- Whether a non-empty text comes next. -/
def startsWith (c : Cursor) (text : List Char) : Bool :=
  !text.isEmpty && text.isPrefixOf c.ahead

/-! ### Moving character by character -/

/-- Goes over the next character. -/
def advance (c : Cursor) : Cursor :=
  match c.ahead with
  | [] => c
  | x :: ahead => ⟨x :: c.behind, ahead, c.position.next x⟩

/-- Goes over `n` characters, or to the end if there are fewer. -/
def advanceBy (c : Cursor) : Nat → Cursor
  | 0 => c
  | n + 1 => if c.atEnd then c else c.advance.advanceBy n

/-- Goes over the next character provided that it is `x`. -/
def eat? (c : Cursor) (x : Char) : Option Cursor :=
  if c.peek = some x then some c.advance else none

/-- Goes over the longest run of characters satisfying `p`. -/
def skipWhile (c : Cursor) (p : Char → Bool) : Cursor :=
  c.advanceBy (c.ahead.takeWhile p).length

/-- Reads the longest run of characters satisfying `p`. -/
def readWhile (c : Cursor) (p : Char → Bool) : List Char × Cursor :=
  (c.ahead.takeWhile p, c.skipWhile p)

/-! ### Moving by search -/

/-- Goes over `n` characters at once, or to the end if there are fewer. -/
def jump (c : Cursor) (n : Nat) : Cursor :=
  let piece := c.ahead.take n
  ⟨piece.reverse ++ c.behind, c.ahead.drop n, c.position.past piece⟩

/-- Goes to a place that many characters ahead, or to the end if there is none,
    and tells which. -/
def jumpTo (c : Cursor) : Option Nat → Bool × Cursor
  | some n => (true, c.jump n)
  | none => (false, c.jump c.ahead.length)

/-- Goes to the next occurrence of a text, which may be right here, or else to
    the end. -/
def skipTo (c : Cursor) (target : List Char) : Bool × Cursor :=
  c.jumpTo (Text.find? target c.ahead)

/-- Goes to the next of the given characters, or else to the end. -/
def skipToAny (c : Cursor) (targets : List Char) : Bool × Cursor :=
  c.jumpTo (c.ahead.findIdx? targets.contains)

/-- Goes to the end of the line, before the characters that break it. -/
def skipToLineEnd (c : Cursor) : Bool × Cursor :=
  c.skipToAny ['\r', '\n']

/-! ### Looking back -/

/-- The text of exactly `size` bytes that ends where `behind` starts, put before
    `text`; nothing when a character stands across its start. -/
def takeBack? : (size : Nat) → (behind text : List Char) → Option (List Char)
  | 0, _, text => some text
  | _ + 1, [], _ => none
  | size + 1, x :: behind, text =>
    if x.utf8Size ≤ size + 1 then takeBack? (size + 1 - x.utf8Size) behind (x :: text) else none

/-- The text from a byte offset to the cursor; nothing when the offset is past
    the cursor or within a character. -/
def sliceFrom? (c : Cursor) (offset : Nat) : Option (List Char) :=
  if offset ≤ c.position.offset then takeBack? (c.position.offset - offset) c.behind [] else none

/-! ### The text behind and ahead -/

@[simp]
theorem source_ofString (text : String) : (ofString text).source = text.toList := rfl

@[simp]
theorem source_advance (c : Cursor) : c.advance.source = c.source := by
  unfold advance
  split <;> simp_all [source]

@[simp]
theorem source_advanceBy (c : Cursor) (n : Nat) : (c.advanceBy n).source = c.source := by
  induction n generalizing c with
  | zero => rfl
  | succ n ih =>
    rw [advanceBy]
    split
    · rfl
    · rw [ih, source_advance]

@[simp]
theorem source_jump (c : Cursor) (n : Nat) : (c.jump n).source = c.source := by
  simp [jump, source]

@[simp]
theorem ahead_advance (c : Cursor) : c.advance.ahead = c.ahead.tail := by
  unfold advance
  split <;> simp_all

@[simp]
theorem ahead_advanceBy (c : Cursor) (n : Nat) : (c.advanceBy n).ahead = c.ahead.drop n := by
  induction n generalizing c with
  | zero => rfl
  | succ n ih =>
    rw [advanceBy]
    split
    · next h => simp [List.isEmpty_iff.1 h]
    · rw [ih, ahead_advance, List.drop_tail]

theorem ahead_skipWhile (c : Cursor) (p : Char → Bool) :
    (c.skipWhile p).ahead = c.ahead.dropWhile p := by
  rw [skipWhile, ahead_advanceBy]
  induction c.ahead with
  | nil => rfl
  | cons x ahead ih => by_cases hx : p x <;> simp [hx, ih]

end Cursor

end ScriptLayout
