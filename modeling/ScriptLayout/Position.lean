import ScriptLayout.Text.Size

/-!
# Positions

A place in a text, kept up to date while the text is read: `next` goes over one
character and `past` over a whole piece at once, counting its line feeds.
Lines and columns start at one, and only a line feed begins a line.
-/

namespace ScriptLayout

/-- A place in a text: the bytes before it, its line, and its column in bytes. -/
structure Position where
  /-- The number of bytes before the place. -/
  offset : Nat
  /-- The line, counted from one. -/
  line : Nat
  /-- The column in the line, counted in bytes from one. -/
  column : Nat
  deriving DecidableEq, Repr

namespace Position

/-- The place before the first character. -/
def start : Position := ⟨0, 1, 1⟩

/-- The place after one more character. -/
def next (p : Position) (c : Char) : Position :=
  if c = '\n' then ⟨p.offset + c.utf8Size, p.line + 1, 1⟩
  else ⟨p.offset + c.utf8Size, p.line, p.column + c.utf8Size⟩

/-- What follows the last line feed of a text, if it has one. -/
def afterLineFeed? : List Char → Option (List Char)
  | [] => none
  | c :: text =>
    match afterLineFeed? text with
    | some tail => some tail
    | none => if c = '\n' then some text else none

/-- The place after a piece of text: the line grows by its line feeds, and the
    column counts from the last of them. -/
def past (p : Position) (text : List Char) : Position :=
  match afterLineFeed? text with
  | some tail => ⟨p.offset + Text.size text, p.line + text.count '\n', Text.size tail + 1⟩
  | none => ⟨p.offset + Text.size text, p.line, p.column + Text.size text⟩

end Position

end ScriptLayout
