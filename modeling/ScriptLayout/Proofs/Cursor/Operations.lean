import ScriptLayout.Proofs.Cursor.Skip

/-!
# What a cursor knows

Whatever is done with a cursor, it goes on by some number of characters
(`exists_perform_eq_advanceBy`): so the text behind it and ahead of it is always the same,
its position is always that of the text behind it, and it never goes back. From that
follows all that a cursor knows about its source (`StandsAfter`): the bytes, line feeds and
bytes of the last line before it, the text after it, and the pieces of text between the
start of a character and itself. A cursor that starts at the start of its source knows it
after any operations (`standsAfter_performAll`).
-/

namespace ScriptLayout.Cursor

/-! ### Operations -/

/-- An operation of a cursor, with its arguments. -/
inductive Operation where
  | advance
  | advanceBy (n : Nat)
  | eat (x : Char)
  | skipWhile (p : Char → Bool)
  | readWhile (p : Char → Bool)
  | skipTo (target : List Char)
  | skipToAny (targets : List Char)
  | skipToLineEnd
  | atEnd
  | peek
  | peekNth (n : Nat)
  | check (p : Char → Bool)
  | startsWith (text : List Char)
  | sliceFrom (offset : Nat)

/-- The cursor after an operation. Where it only looks ahead or back, or does not find what
    it is to eat, it stays as it is. -/
def perform (c : Cursor) : Operation → Cursor
  | .advance => c.advance
  | .advanceBy n => c.advanceBy n
  | .eat x => (c.eat? x).getD c
  | .skipWhile p => c.skipWhile p
  | .readWhile p => (c.readWhile p).2
  | .skipTo target => (c.skipTo target).2
  | .skipToAny targets => (c.skipToAny targets).2
  | .skipToLineEnd => c.skipToLineEnd.2
  | .atEnd | .peek | .peekNth _ | .check _ | .startsWith _ | .sliceFrom _ => c

/-- The cursor after a sequence of operations. -/
def performAll (c : Cursor) (operations : List Operation) : Cursor :=
  operations.foldl perform c

variable {c : Cursor} {source : String}

theorem exists_jumpTo_eq_advanceBy (c : Cursor) (place : Option Nat) :
    ∃ n, (c.jumpTo place).2 = c.advanceBy n := by
  have hjump (n : Nat) : c.jump n = c.advanceBy n := by
    rw [jump_eq_iterate_advance, advanceBy_eq_iterate_advance]
  cases place with
  | none => exact ⟨_, hjump _⟩
  | some n => exact ⟨n, hjump n⟩

/-- Every operation goes over some number of characters, and does nothing else. -/
theorem exists_perform_eq_advanceBy (c : Cursor) (operation : Operation) :
    ∃ n, c.perform operation = c.advanceBy n := by
  have stays : ∃ n, c = c.advanceBy n := ⟨0, rfl⟩
  have steps : ∃ n, c.advance = c.advanceBy n := ⟨1, (advanceBy_eq_iterate_advance c 1).symm⟩
  cases operation with
  | advance => exact steps
  | advanceBy n => exact ⟨n, rfl⟩
  | eat x =>
    rw [perform, eat?]
    split
    · exact steps
    · exact stays
  | skipWhile p => exact ⟨_, rfl⟩
  | readWhile p => exact ⟨_, rfl⟩
  | skipTo target => exact exists_jumpTo_eq_advanceBy c _
  | skipToAny targets => exact exists_jumpTo_eq_advanceBy c _
  | skipToLineEnd => exact exists_jumpTo_eq_advanceBy c _
  | _ => exact stays

/-- No operation changes the text. -/
theorem source_perform (c : Cursor) (operation : Operation) :
    (c.perform operation).source = c.source := by
  obtain ⟨n, hn⟩ := exists_perform_eq_advanceBy c operation
  rw [hn, source_advanceBy]

/-- Every operation leaves the cursor where the text behind it ends. -/
theorem IsCoherent.perform (h : c.IsCoherent) (operation : Operation) :
    (c.perform operation).IsCoherent := by
  obtain ⟨n, hn⟩ := exists_perform_eq_advanceBy c operation
  rw [hn]
  exact h.advanceBy n

/-- No operation goes back. -/
theorem offset_le_perform (c : Cursor) (operation : Operation) :
    c.position.offset ≤ (c.perform operation).position.offset := by
  obtain ⟨n, hn⟩ := exists_perform_eq_advanceBy c operation
  rw [hn, advanceBy_eq_iterate_advance, position_iterate_advance, Position.offset_past]
  exact Nat.le_add_right ..

theorem source_performAll (c : Cursor) (operations : List Operation) :
    (c.performAll operations).source = c.source := by
  induction operations generalizing c with
  | nil => rfl
  | cons operation operations ih => exact (ih _).trans (source_perform c operation)

theorem IsCoherent.performAll (h : c.IsCoherent) (operations : List Operation) :
    (c.performAll operations).IsCoherent := by
  induction operations generalizing c with
  | nil => exact h
  | cons operation operations ih => exact ih (h.perform operation)

/-! ### The result -/

/-- A cursor stands in a source after its first characters, `front`, and what it tells of
    the source is right. -/
structure StandsAfter (c : Cursor) (source : String) (front : List Char) : Prop where
  /-- The unread text is what comes after `front`. -/
  toList_eq : source.toList = front ++ c.ahead
  /-- The offset is the number of bytes of `front`. -/
  offset_eq : c.position.offset = Text.size front
  /-- The offset is within the source. -/
  offset_le : c.position.offset ≤ source.utf8ByteSize
  /-- A character begins at the offset, or the source ends there. -/
  isValid_offset : String.Pos.Raw.IsValid source ⟨c.position.offset⟩
  /-- The line is one more than the line feeds of `front`. -/
  line_eq : c.position.line = 1 + front.count '\n'
  /-- The column is one more than the bytes of `front` after its last line feed. -/
  column_eq : c.position.column = 1 + Text.size (Text.lastLine front)
  /-- The text from a place can be taken back if a character begins there, not after the
      cursor, and only then. -/
  isSome_sliceFrom?_iff : ∀ start, (c.sliceFrom? start).isSome ↔
    String.Pos.Raw.IsValid source ⟨start⟩ ∧ start ≤ c.position.offset
  /-- What is taken back consists of the bytes of the source from there to the cursor. -/
  toByteArray_of_sliceFrom? : ∀ start piece, c.sliceFrom? start = some piece →
    (String.ofList piece).toByteArray = source.toByteArray.extract start c.position.offset

theorem IsCoherent.isSome_sliceFrom?_iff (h : c.IsCoherent) (hs : c.source = source.toList)
    (start : Nat) : (c.sliceFrom? start).isSome ↔
      String.Pos.Raw.IsValid source ⟨start⟩ ∧ start ≤ c.position.offset := by
  rw [Cursor.source] at hs
  rw [h.offset_eq, ← Text.size_reverse c.behind, Option.isSome_iff_exists,
    Text.isValid_iff_exists_append]
  constructor
  · rintro ⟨piece, hp⟩
    obtain ⟨front, hbehind, rfl⟩ := h.sliceFrom?_eq_some_iff.1 hp
    refine ⟨⟨front, piece ++ c.ahead, ?_, rfl⟩, ?_⟩
    · rw [← hs, hbehind, List.append_assoc]
    · rw [hbehind, Text.size_append]
      exact Nat.le_add_right ..
  · -- A beginning of the source that is no longer than what the cursor has read begins it.
    rintro ⟨⟨front, back, hfront, rfl⟩, hle⟩
    obtain ⟨piece, hbehind, -⟩ :=
      Text.exists_append_of_size_le (hfront.symm.trans hs.symm) hle
    exact ⟨piece, h.sliceFrom?_eq_some_iff.2 ⟨front, hbehind, rfl⟩⟩

theorem IsCoherent.toByteArray_of_sliceFrom? (h : c.IsCoherent)
    (hs : c.source = source.toList) {start : Nat} {piece : List Char}
    (hp : c.sliceFrom? start = some piece) :
    (String.ofList piece).toByteArray = source.toByteArray.extract start c.position.offset := by
  obtain ⟨front, hbehind, rfl⟩ := h.sliceFrom?_eq_some_iff.1 hp
  have htext : source.toList = front ++ piece ++ c.ahead := by rw [← hs, Cursor.source, hbehind]
  rw [h.offset_eq, ← Text.size_reverse c.behind, hbehind, Text.extract_toByteArray htext]

theorem IsCoherent.standsAfter (h : c.IsCoherent) (hs : c.source = source.toList) :
    c.StandsAfter source c.behind.reverse := by
  have htext : source.toList = c.behind.reverse ++ c.ahead := hs.symm
  have hposition : c.position = ⟨Text.size c.behind.reverse, 1 + c.behind.reverse.count '\n',
      1 + Text.size (Text.lastLine c.behind.reverse)⟩ := h.trans (Position.past_start _)
  exact {
    toList_eq := htext
    offset_eq := by rw [hposition]
    offset_le := by
      rw [hposition, ← Text.size_toList, htext, Text.size_append]
      exact Nat.le_add_right ..
    isValid_offset := Text.isValid_iff_exists_append.2 ⟨_, _, htext, by rw [hposition]⟩
    line_eq := by rw [hposition]
    column_eq := by rw [hposition]
    isSome_sliceFrom?_iff := h.isSome_sliceFrom?_iff hs
    toByteArray_of_sliceFrom? := fun _ _ => h.toByteArray_of_sliceFrom? hs }

/-- A line and a column are no more than the bytes that lead to them. -/
theorem StandsAfter.line_add_column_le {front : List Char} (h : c.StandsAfter source front) :
    c.position.line + c.position.column ≤ source.utf8ByteSize + 2 := by
  have hfront := Text.count_add_size_lastLine_le front
  have hle := h.offset_le
  rw [h.offset_eq] at hle
  rw [h.line_eq, h.column_eq]
  omega

/-- Whatever has been done with a cursor of a source, it stands after some of the first
    characters of the source, and nothing that is done with it then leads back from there.
    Its numbers are bounded by the size of the source: in a source of less than
    `2 ^ 32 - 1` bytes, each takes 32 bits. -/
theorem standsAfter_performAll (source : String) (operations : List Operation) :
    let c := (ofString source).performAll operations
    (∃ front, c.StandsAfter source front) ∧
    c.position.line + c.position.column ≤ source.utf8ByteSize + 2 ∧
    ∀ operation, c.position.offset ≤ (c.perform operation).position.offset := by
  intro c
  have hsource : c.source = source.toList :=
    (source_performAll _ operations).trans (source_ofString source)
  have h := ((isCoherent_ofString source).performAll operations).standsAfter hsource
  exact ⟨⟨_, h⟩, h.line_add_column_le, offset_le_perform c⟩

/-- Within a character of two bytes, nothing can be taken back. -/
example :
    let operations : List Operation :=
      [.skipToLineEnd, .eat '\n', .skipTo ['*', '/'], .advanceBy 1]
    let c := (ofString "\né*/x").performAll operations
    c.position = ⟨4, 2, 4⟩ ∧ c.sliceFrom? 1 = some ['é', '*'] ∧ c.sliceFrom? 2 = none := by
  decide

end ScriptLayout.Cursor
