import Mathlib.Data.List.DropRight
import ScriptLayout.Proofs.Text.Size
import ScriptLayout.Text.Blank

/-!
# The lines of a text

A line feed ends a line, and nothing else does. The last line of a text is what
comes after its last line feed (`lastLine`). A place in a text can be told by a line
and a column in bytes, and what stands there be read by its number of bytes
(`readAt?`): the place after a piece of text has the line of the line feeds in the
piece, and the column of the bytes on its last line (`readAt?_append`).
-/

namespace ScriptLayout.Text

variable {text line front piece back : List Char} {c : Char}

/-! ### Last lines -/

/-- What comes after the last line break of a text. -/
def lastLine (text : List Char) : List Char :=
  text.rtakeWhile (· ≠ '\n')

/-- A character that is not blank stands on the last line. -/
def EndsVisibly (text : List Char) : Prop :=
  ∃ c ∈ lastLine text, isBlank c = false

theorem lastLine_suffix (text : List Char) : lastLine text <:+ text :=
  List.rtakeWhile_suffix _ text

theorem lastLine_newline (text : List Char) : lastLine (text ++ ['\n']) = [] :=
  List.rtakeWhile_concat_neg _ text '\n' (by decide)

theorem lastLine_append {line : List Char} (h : '\n' ∉ line) (text : List Char) :
    lastLine (text ++ line) = lastLine text ++ line := by
  have hline : ∀ c ∈ line.reverse, decide (c ≠ '\n') = true := fun c hc =>
    decide_eq_true fun hn => h (hn ▸ List.mem_reverse.1 hc)
  rw [lastLine, List.rtakeWhile, List.reverse_append, List.takeWhile_append_of_pos hline,
    List.reverse_append, List.reverse_reverse]
  rfl

/-- A line feed hides what comes before it. -/
theorem lastLine_suffix_of_mem {line : List Char} (h : '\n' ∈ line) (text : List Char) :
    lastLine (text ++ line) <:+ line := by
  have hne : (line.reverse.takeWhile (· ≠ '\n')).length ≠ line.reverse.length := fun hlen =>
    absurd ((List.takeWhile_prefix _).eq_of_length hlen) fun heq =>
      absurd (List.mem_takeWhile_imp (heq ▸ List.mem_reverse.2 h)) (by decide)
  rw [lastLine, List.rtakeWhile, List.reverse_append, List.takeWhile_append, if_neg hne]
  exact List.rtakeWhile_suffix _ line

theorem lastLine_suffix_append (before text : List Char) :
    lastLine text <:+ lastLine (before ++ text) := by
  rw [lastLine, lastLine, List.rtakeWhile, List.rtakeWhile, List.reverse_append,
    List.reverse_suffix, List.takeWhile_append]
  split
  · exact (List.takeWhile_prefix _).trans (List.prefix_append ..)
  · exact List.prefix_refl _

theorem EndsVisibly.append (h : EndsVisibly text) (before : List Char) :
    EndsVisibly (before ++ text) :=
  h.imp fun _ h => ⟨(lastLine_suffix_append before text).subset h.1, h.2⟩

theorem EndsVisibly.append_right (h : EndsVisibly text) {line : List Char} (hn : '\n' ∉ line) :
    EndsVisibly (text ++ line) := by
  obtain ⟨c, hc, hb⟩ := h
  exact ⟨c, by rw [lastLine_append hn]; exact List.mem_append_left _ hc, hb⟩

/-- A text on one line is not blank there if it does not begin with a blank. -/
theorem endsVisibly_cons (hc : isBlank c = false) (h : '\n' ∉ c :: text) :
    EndsVisibly (c :: text) := by
  have hline : lastLine (c :: text) = c :: text := lastLine_append h []
  exact ⟨c, by rw [hline]; exact List.mem_cons_self, hc⟩

theorem endsVisibly_of_getLast? (h : text.getLast? = some c) (hc : isBlank c = false) :
    EndsVisibly text := by
  obtain ⟨before, rfl⟩ := List.getLast?_eq_some_iff.1 h
  have hn : '\n' ∉ [c] := by
    rintro (_ | _)
    · exact absurd hc (by decide)
    · contradiction
  exact (endsVisibly_cons hc hn).append before

/-- A text is its last line, after nothing or after a line feed. -/
theorem exists_lastLine (text : List Char) : ∃ lines, text = lines ++ lastLine text ∧
    '\n' ∉ lastLine text ∧ (lines = [] ∨ ∃ above, lines = above ++ ['\n']) := by
  induction text using List.reverseRecOn with
  | nil => exact ⟨[], rfl, List.not_mem_nil, .inl rfl⟩
  | append_singleton text c ih =>
    by_cases hc : c = '\n'
    · subst hc
      rw [lastLine_newline]
      exact ⟨text ++ ['\n'], (List.append_nil _).symm, List.not_mem_nil, .inr ⟨text, rfl⟩⟩
    · obtain ⟨lines, htext, hline, hlines⟩ := ih
      have hn : '\n' ∉ [c] := by simpa using Ne.symm hc
      rw [lastLine_append hn]
      refine ⟨lines, ?_, ?_, hlines⟩
      · rw [← List.append_assoc, ← htext]
      · exact fun h => (List.mem_append.1 h).elim hline hn

/-- The lines before the last one and the bytes of the last one are no more than bytes. -/
theorem count_add_size_lastLine_le (text : List Char) :
    text.count '\n' + size (lastLine text) ≤ size text := by
  obtain ⟨lines, htext, hline, -⟩ := exists_lastLine text
  have hle : lines.count '\n' ≤ size lines := List.count_le_length.trans (length_le_size lines)
  calc text.count '\n' + size (lastLine text)
      = lines.count '\n' + size (lastLine text) := by
        rw [congrArg (List.count '\n') htext, List.count_append, List.count_eq_zero.2 hline,
          Nat.add_zero]
    _ ≤ size lines + size (lastLine text) := Nat.add_le_add_right hle _
    _ = size text := by rw [← size_append, ← htext]

/-! ### Reading at a line and a column -/

/-- The text from the line with the given number on, counted from one, if there are so
    many lines. -/
def fromLine? : Nat → List Char → Option (List Char)
  | 0, _ => none
  | 1, text => some text
  | _ + 2, [] => none
  | line + 2, c :: text => fromLine? (if c = '\n' then line + 1 else line + 2) text

/-- The first bytes of a text, and what comes after them; nothing where a character
    stands across their end, or the text is shorter. -/
def splitBytes? : Nat → List Char → Option (List Char × List Char)
  | 0, text => some ([], text)
  | _ + 1, [] => none
  | size + 1, c :: text =>
    if c.utf8Size ≤ size + 1 then
      (splitBytes? (size + 1 - c.utf8Size) text).map fun (front, back) => (c :: front, back)
    else none

/-- The piece of a text that stands at a line and a column and takes so many bytes,
    be it on one line or on several. Lines and columns are counted from one, and columns
    in bytes. -/
def readAt? (text : List Char) (line column size : Nat) : Option (List Char) := do
  let (_, rest) ← splitBytes? (column - 1) (← fromLine? line text)
  let (piece, _) ← splitBytes? size rest
  return piece

theorem fromLine?_one (text : List Char) : fromLine? 1 text = some text := by
  cases text <;> rfl

/-- After a line feed, the next line begins. -/
theorem fromLine?_newline (above text : List Char) :
    fromLine? (above.count '\n' + 2) (above ++ '\n' :: text) = some text := by
  induction above with
  | nil => exact fromLine?_one text
  | cons c above ih =>
    rw [List.cons_append, fromLine?.eq_def]
    by_cases hc : c = '\n' <;> simp [hc, ih]

/-- The line that a text goes on with begins with the last line of what came before. -/
theorem fromLine?_append (front back : List Char) :
    fromLine? (1 + front.count '\n') (front ++ back) = some (lastLine front ++ back) := by
  obtain ⟨lines, hfront, hline, hlines⟩ := exists_lastLine front
  have hcount : front.count '\n' = lines.count '\n' := by
    rw [congrArg (List.count '\n') hfront, List.count_append, List.count_eq_zero.2 hline,
      Nat.add_zero]
  rw [hcount, congrArg (· ++ back) hfront, List.append_assoc]
  rcases hlines with rfl | ⟨above, rfl⟩
  · exact fromLine?_one _
  · rw [List.count_append, List.append_assoc, Nat.add_comm]
    exact fromLine?_newline above _

theorem splitBytes?_append (front back : List Char) :
    splitBytes? (size front) (front ++ back) = some (front, back) := by
  induction front with
  | nil => rw [size_nil, splitBytes?, List.nil_append]
  | cons c front ih =>
    obtain ⟨n, hn⟩ := Nat.exists_eq_succ_of_ne_zero (Nat.ne_of_gt c.utf8Size_pos)
    have hsize : size (c :: front) = n + size front + 1 := by rw [size_cons, hn]; omega
    rw [hsize, List.cons_append, splitBytes?, if_pos (by omega),
      show n + size front + 1 - c.utf8Size = size front by omega, ih]
    rfl

/-- A piece of a text is what stands at the line and the column that the text before it
    leads to. -/
theorem readAt?_append (front piece back : List Char) :
    readAt? (front ++ (piece ++ back)) (1 + front.count '\n') (1 + size (lastLine front))
      (size piece) = some piece := by
  simp only [readAt?, fromLine?_append, Nat.add_sub_cancel_left, splitBytes?_append,
    Option.bind_eq_bind, Option.bind_some]
  rfl

end ScriptLayout.Text
