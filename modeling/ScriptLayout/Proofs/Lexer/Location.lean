import ScriptLayout.Proofs.Lexer.Cover
import ScriptLayout.Proofs.Text.Lines

/-!
# Where tokens stand

The span of a token is the line and the column at which the token starts, and its
number of bytes (`Span.Locates`). It is enough to find the token in the source again,
whatever line breaks and characters of several bytes come before it or stand in it
(`span_locates`).

A cursor keeps its line and column up to date while it goes over the text, and so they
are those of the text behind it (`Cursor.IsCoherent`, `Position.past_start`).
-/

namespace ScriptLayout

/-- The span of a token is taken at its first character. -/
theorem Cursor.span_of_token? {c c' : Cursor} {previous : Option Lexeme} {t : Token}
    (h : c.token? previous = some (t, c')) :
    t.span = ⟨(c.skipWhile Text.isBlank).position.line,
      (c.skipWhile Text.isBlank).position.column, Text.size t.text.toList⟩ := by
  simp only [token?] at h
  split at h
  · exact absurd h (by simp)
  · obtain ⟨rfl, -⟩ := Prod.mk.inj (Option.some.inj h)
    simp

/-! ### The result -/

/-- The span tells where a piece of a text stands, of which `front` comes before it. -/
structure Span.Locates (s : Span) (text front piece : List Char) : Prop where
  /-- The line is one more than the line feeds before the piece. -/
  line_eq : s.line = 1 + front.count '\n'
  /-- The column is one more than the bytes before the piece on its line. -/
  column_eq : s.column = 1 + Text.size (Text.lastLine front)
  /-- The length is that of the piece. -/
  length_eq : s.length = Text.size piece
  /-- What is read at that line and column is the piece. -/
  readAt?_eq : Text.readAt? text s.line s.column s.length = some piece

variable {source : String} {k : Nat}

/-- The position before a token is that of the source up to there. -/
theorem span_eq (hk : k < (tokens source).length) {front : List Char}
    (hf : front = (cursorAfter source k).behind.reverse ++ gapBefore source k) :
    (tokens source)[k].span = ⟨1 + front.count '\n', 1 + Text.size (Text.lastLine front),
      Text.size (tokens source)[k].text.toList⟩ := by
  obtain ⟨previous, ht⟩ := token?_cursorAfter hk
  have hbehind : ((cursorAfter source k).skipWhile Text.isBlank).behind.reverse = front := by
    rw [Cursor.behind_skipWhile, List.reverse_append, List.reverse_reverse, hf, gapBefore]
  have hposition :
      ((cursorAfter source k).skipWhile Text.isBlank).position = .past .start front := by
    rw [((isCoherent_cursorAfter source k).skipWhile _), hbehind]
  rw [Cursor.span_of_token? ht, hposition, Position.past_start]

/-- The span of a token locates it in its source. Its numbers are bounded by the size of
    the source: in a source of less than `2 ^ 32 - 1` bytes, each takes 32 bits. -/
theorem span_locates (source : String) {k : Nat} (hk : k < (tokens source).length) :
    (∃ front back, source.toList = front ++ ((tokens source)[k].text.toList ++ back) ∧
      tokenStart source k = Text.size front ∧
      (tokens source)[k].span.Locates source.toList front (tokens source)[k].text.toList) ∧
    (tokens source)[k].span.line + (tokens source)[k].span.column +
      (tokens source)[k].span.length ≤ source.utf8ByteSize + 2 := by
  obtain ⟨front, hfront⟩ : ∃ front,
      front = (cursorAfter source k).behind.reverse ++ gapBefore source k := ⟨_, rfl⟩
  obtain ⟨back, hsource⟩ : ∃ back,
      source.toList = front ++ ((tokens source)[k].text.toList ++ back) := by
    refine ⟨(cursorAfter source (k + 1)).ahead, ?_⟩
    rw [source_cursorAfter source (k + 1), behind_cursorAfter_succ hk, ← hfront, List.append_assoc]
  have hspan := span_eq hk hfront
  refine ⟨⟨front, back, hsource, ?_, ?_, ?_, ?_, ?_⟩, ?_⟩
  · rw [tokenStart_eq, hfront]
  · rw [hspan]
  · rw [hspan]
  · rw [hspan]
  · rw [hspan, hsource]
    exact Text.readAt?_append front _ back
  · have hle := Text.count_add_size_lastLine_le front
    rw [← Text.size_toList, hsource, hspan, Text.size_append, Text.size_append]
    dsimp only
    omega

/-- A name after a line that is broken by two characters, and after a comment on two lines
    that ends in a character of two bytes and its terminator. -/
theorem span_locates_comment : 1 < (tokens "\r\n /*\né*/x").length ∧
    (∃ front back, "\r\n /*\né*/x".toList = front ++ ("x".toList ++ back) ∧
      tokenStart "\r\n /*\né*/x" 1 = Text.size front ∧
      Span.Locates ⟨3, 5, 1⟩ "\r\n /*\né*/x".toList front "x".toList) ∧
    3 + 5 + 1 ≤ "\r\n /*\né*/x".utf8ByteSize + 2 := by
  have ht : tokens "\r\n /*\né*/x" = [⟨⟨.inlineComment, "/*\né*/"⟩, ⟨2, 2, 7⟩, none⟩,
      ⟨⟨.symbol, "x"⟩, ⟨3, 5, 1⟩, some ⟨.inlineComment, "/*\né*/"⟩⟩] := by
    decide +kernel
  have hk : 1 < (tokens "\r\n /*\né*/x").length := by rw [ht]; decide
  have h := span_locates "\r\n /*\né*/x" hk
  simp only [ht] at h
  exact ⟨hk, h⟩

end ScriptLayout
