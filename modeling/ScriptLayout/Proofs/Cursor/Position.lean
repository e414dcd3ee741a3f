import ScriptLayout.Cursor
import ScriptLayout.Proofs.Text.Lines

/-!
# Where a cursor stands

Going over a text character by character leads to the same position as going
past it at once (`Position.next_past`). So the position of a cursor that started
at the start of its text is always that of the text behind it (`IsCoherent`), and
the pieces of text that can be taken back by an offset are those that end at the
cursor (`sliceFrom?_eq_some_iff`): a piece that the cursor has read is taken back by
the offset at which it started, which is neither past the cursor nor within a
character (`sliceFrom?_advanceBy`).
-/

namespace ScriptLayout

namespace Position

theorem afterLineFeed?_concat (text : List Char) (c : Char) :
    afterLineFeed? (text ++ [c]) =
      if c = '\n' then some [] else (afterLineFeed? text).map (· ++ [c]) := by
  induction text with
  | nil => rfl
  | cons d text ih =>
    rw [List.cons_append, afterLineFeed?, ih, afterLineFeed?]
    by_cases hc : c = '\n'
    · simp only [hc, if_true]
    · simp only [hc, if_false]
      cases afterLineFeed? text with
      | some tail => rfl
      | none => by_cases hd : d = '\n' <;> simp [hd]

theorem count_of_afterLineFeed?_eq_none {text : List Char} (h : afterLineFeed? text = none) :
    text.count '\n' = 0 := by
  induction text with
  | nil => rfl
  | cons d text ih =>
    rw [afterLineFeed?] at h
    split at h
    · exact absurd h (by simp)
    · next hn =>
      rw [List.count_cons, ih hn]
      split at h
      · exact absurd h (by simp)
      · next hd => simp [hd]

theorem past_nil (p : Position) : p.past [] = p := rfl

/-- Going past a text and over one more character. -/
theorem next_past (p : Position) (text : List Char) (c : Char) :
    (p.past text).next c = p.past (text ++ [c]) := by
  rw [past, past, afterLineFeed?_concat]
  by_cases hc : c = '\n'
  · subst hc
    cases h : afterLineFeed? text with
    | some tail => simp [next, Nat.add_assoc]
    | none => simp [next, Nat.add_assoc, count_of_afterLineFeed?_eq_none h]
  · cases afterLineFeed? text with
    | some tail => simp [next, hc, Nat.add_assoc, Nat.add_comm 1]
    | none => simp [next, hc, Nat.add_assoc]

theorem offset_past (p : Position) (text : List Char) :
    (p.past text).offset = p.offset + Text.size text := by
  rw [past]
  cases afterLineFeed? text <;> rfl

/-- Where a text has no line feed, it consists of its last line. -/
theorem getD_afterLineFeed? (text : List Char) :
    (afterLineFeed? text).getD text = Text.lastLine text := by
  induction text using List.reverseRecOn with
  | nil => rfl
  | append_singleton text c ih =>
    rw [afterLineFeed?_concat]
    by_cases hc : c = '\n'
    · rw [if_pos hc, hc, Text.lastLine_newline]
      rfl
    · have hn : '\n' ∉ [c] := by simpa using Ne.symm hc
      rw [if_neg hc, Text.lastLine_append hn, ← ih]
      cases afterLineFeed? text <;> rfl

/-- The position after a text, from the start. -/
theorem past_start (text : List Char) : start.past text =
    ⟨Text.size text, 1 + text.count '\n', 1 + Text.size (Text.lastLine text)⟩ := by
  rw [← getD_afterLineFeed?, past]
  cases h : afterLineFeed? text with
  | some tail => simp [start, Nat.add_comm]
  | none => simp [start, count_of_afterLineFeed?_eq_none h]

end Position

namespace Cursor

variable {c : Cursor}

/-- The cursor stands where the text behind it ends, counted from the start. -/
def IsCoherent (c : Cursor) : Prop :=
  c.position = Position.start.past c.behind.reverse

theorem isCoherent_ofString (text : String) : (ofString text).IsCoherent := rfl

theorem IsCoherent.advance (h : c.IsCoherent) : c.advance.IsCoherent := by
  rw [Cursor.advance]
  split
  · exact h
  · rw [IsCoherent, h, Position.next_past, List.reverse_cons]

theorem IsCoherent.advanceBy (h : c.IsCoherent) (n : Nat) : (c.advanceBy n).IsCoherent := by
  induction n generalizing c with
  | zero => exact h
  | succ n ih =>
    rw [Cursor.advanceBy]
    split
    · exact h
    · exact ih h.advance

theorem IsCoherent.skipWhile (h : c.IsCoherent) (p : Char → Bool) : (c.skipWhile p).IsCoherent :=
  h.advanceBy _

/-- The offset counts the bytes behind. -/
theorem IsCoherent.offset_eq (h : c.IsCoherent) : c.position.offset = Text.size c.behind := by
  rw [h, Position.offset_past, Text.size_reverse]
  exact Nat.zero_add _

/-! ### Taking back what has been read -/

@[simp]
theorem behind_advanceBy (c : Cursor) (n : Nat) :
    (c.advanceBy n).behind = (c.ahead.take n).reverse ++ c.behind := by
  induction n generalizing c with
  | zero => rfl
  | succ n ih =>
    rw [advanceBy]
    split
    · next h => rw [List.isEmpty_iff.1 h]; rfl
    · rw [ih, ahead_advance, advance]
      split
      · next h => simp [h]
      · next h => simp [h]

theorem behind_skipWhile (c : Cursor) (p : Char → Bool) :
    (c.skipWhile p).behind = (c.ahead.takeWhile p).reverse ++ c.behind := by
  rw [skipWhile, behind_advanceBy, ← List.prefix_iff_eq_take.1 (List.takeWhile_prefix p)]

theorem takeBack?_append (back before text : List Char) :
    takeBack? (Text.size back) (back ++ before) text = some (back.reverse ++ text) := by
  induction back generalizing text with
  | nil => rw [Text.size_nil, takeBack?]; rfl
  | cons x back ih =>
    obtain ⟨n, hn⟩ := Nat.exists_eq_succ_of_ne_zero (Nat.ne_of_gt x.utf8Size_pos)
    have hsize : Text.size (x :: back) = n + Text.size back + 1 := by rw [Text.size_cons, hn]; omega
    rw [hsize, List.cons_append, takeBack?, if_pos (by omega),
      show n + Text.size back + 1 - x.utf8Size = Text.size back by omega, ih]
    simp

theorem takeBack?_eq_some_iff {size : Nat} {behind text piece : List Char} :
    takeBack? size behind text = some piece ↔ ∃ back before,
      behind = back ++ before ∧ Text.size back = size ∧ piece = back.reverse ++ text := by
  constructor
  · intro h
    fun_induction takeBack? size behind text with
    | case1 behind text => exact ⟨[], behind, rfl, rfl, (Option.some.inj h).symm⟩
    | case2 => exact absurd h (by simp)
    | case3 size x behind text hx ih =>
      obtain ⟨back, before, rfl, hsize, rfl⟩ := ih h
      exact ⟨x :: back, before, rfl, by rw [Text.size_cons]; omega, by simp⟩
    | case4 => exact absurd h (by simp)
  · rintro ⟨back, before, rfl, rfl, rfl⟩
    exact takeBack?_append back before text

/-- A cursor gives back the pieces of text that end where it stands, by the sizes of what
    comes before them. -/
theorem IsCoherent.sliceFrom?_eq_some_iff (h : c.IsCoherent) {offset : Nat}
    {piece : List Char} : c.sliceFrom? offset = some piece ↔
      ∃ front, c.behind.reverse = front ++ piece ∧ Text.size front = offset := by
  rw [sliceFrom?, h.offset_eq]
  constructor
  · intro hs
    split at hs
    · next hle =>
      obtain ⟨back, before, hbehind, hsize, rfl⟩ := takeBack?_eq_some_iff.1 hs
      have hsizes := congrArg Text.size hbehind
      rw [Text.size_append] at hsizes
      refine ⟨before.reverse, by simp [hbehind], ?_⟩
      rw [Text.size_reverse]
      omega
    · exact absurd hs (by simp)
  · rintro ⟨front, hbehind, rfl⟩
    have hsize := congrArg Text.size hbehind
    rw [Text.size_reverse, Text.size_append] at hsize
    rw [if_pos (by omega), takeBack?_eq_some_iff]
    refine ⟨piece.reverse, front.reverse, ?_, ?_, by simp⟩
    · rw [← List.reverse_append, ← hbehind, List.reverse_reverse]
    · rw [Text.size_reverse]
      omega

/-- What a cursor has read since it was at an offset is the text from there. -/
theorem IsCoherent.sliceFrom?_advanceBy (h : c.IsCoherent) (n : Nat) :
    (c.advanceBy n).sliceFrom? c.position.offset = some (c.ahead.take n) := by
  refine (h.advanceBy n).sliceFrom?_eq_some_iff.2 ⟨c.behind.reverse, ?_, ?_⟩
  · rw [behind_advanceBy, List.reverse_append, List.reverse_reverse]
  · rw [Text.size_reverse, h.offset_eq]

end Cursor

end ScriptLayout
