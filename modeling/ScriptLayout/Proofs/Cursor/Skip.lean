import Mathlib.Logic.Function.Iterate
import ScriptLayout.Proofs.Cursor.Position
import ScriptLayout.Proofs.Text.Search

/-!
# Skipping

Going over a piece of text at once leaves a cursor where going over its characters one by
one does, at the same line and column whatever line feeds the piece has
(`jump_eq_iterate_advance`). A search for a place where to stop is therefore a walk to the
first such place, or to the end of the text if there is none (`StopsAtFirst`), in which no
place on the way is passed over, be it within a part of what is searched for
(`skips_stopsAtFirst`).
-/

namespace ScriptLayout.Cursor

variable {c : Cursor} {stop : List Char → Prop}

/-! ### Jumps as walks -/

theorem advance_of_atEnd (h : c.atEnd) : c.advance = c := by
  rw [advance, List.isEmpty_iff.1 h]

theorem advanceBy_eq_iterate_advance (c : Cursor) (n : Nat) : c.advanceBy n = advance^[n] c := by
  induction n generalizing c with
  | zero => rfl
  | succ n ih =>
    rw [advanceBy, Function.iterate_succ_apply]
    split
    · -- At the end of the text, the steps that are left do nothing.
      next h => rw [advance_of_atEnd h, Function.iterate_fixed (advance_of_atEnd h)]
    · exact ih _

theorem ahead_iterate_advance (c : Cursor) (n : Nat) :
    (advance^[n] c).ahead = c.ahead.drop n := by
  rw [← advanceBy_eq_iterate_advance, ahead_advanceBy]

theorem position_iterate_advance (c : Cursor) (n : Nat) :
    (advance^[n] c).position = c.position.past (c.ahead.take n) := by
  induction n with
  | zero => exact (Position.past_nil _).symm
  | succ n ih =>
    -- The step taken last is over the character that the piece grows by at its end.
    have hahead := ahead_iterate_advance c n
    rw [Function.iterate_succ_apply', advance, List.take_add_one, ← List.head?_drop, ← hahead]
    split
    · next h => rw [ih, h, List.head?_nil, Option.toList_none, List.append_nil]
    · next x ahead h => rw [h, List.head?_cons, Option.toList_some, ← Position.next_past, ← ih]

/-- A jump goes as far as so many steps do, and keeps count of the lines and columns as
    they do. -/
theorem jump_eq_iterate_advance (c : Cursor) (n : Nat) : c.jump n = advance^[n] c := by
  rw [jump, ← position_iterate_advance, ← ahead_iterate_advance, ← advanceBy_eq_iterate_advance,
    ← behind_advanceBy]

/-! ### Searches as walks -/

/-- A walk from a cursor, character by character, that stops at the first place whose
    unread text has the property `stop`, or else at the end: whether there is such a
    place, and the cursor where the walk ends. -/
inductive StopsAtFirst (c : Cursor) (stop : List Char → Prop) : Bool × Cursor → Prop
  | found {n : Nat} : IsLeast {m | stop (advance^[m] c).ahead} n →
      StopsAtFirst c stop (true, advance^[n] c)
  | atEnd {n : Nat} : (∀ m, ¬ stop (advance^[m] c).ahead) → (advance^[n] c).atEnd →
      StopsAtFirst c stop (false, advance^[n] c)

/-- To go to the place that a search tells is to walk to the first one. -/
theorem stopsAtFirst_jumpTo {place : Option Nat}
    (hs : ∀ n, place = some n → IsLeast {m | stop (c.ahead.drop m)} n)
    (hn : place = none → ∀ m, ¬ stop (c.ahead.drop m)) : c.StopsAtFirst stop (c.jumpTo place) := by
  simp only [← ahead_iterate_advance] at hs hn
  cases place with
  | some n =>
    rw [jumpTo, jump_eq_iterate_advance]
    exact .found (hs n rfl)
  | none =>
    rw [jumpTo, jump_eq_iterate_advance]
    exact .atEnd (hn rfl) (by rw [Cursor.atEnd, ahead_iterate_advance]; simp)

theorem stopsAtFirst_skipTo (c : Cursor) (target : List Char) :
    c.StopsAtFirst (target <+: ·) (c.skipTo target) :=
  stopsAtFirst_jumpTo (fun _ => Text.isLeast_of_find?) Text.not_prefix_drop_of_find?_eq_none

theorem stopsAtFirst_skipToAny (c : Cursor) (targets : List Char) :
    c.StopsAtFirst (fun text => ∃ x ∈ text.head?, targets.contains x) (c.skipToAny targets) :=
  stopsAtFirst_jumpTo (fun _ => Text.isLeast_of_findIdx?)
    Text.not_exists_head?_drop_of_findIdx?

/-- Every skip is a walk, character by character, that stops at the first place where the
    text skipped to comes next, or one of the characters, or a character that breaks the
    line, and at the end of the text if there is no such place. The empty text comes next
    anywhere, and none of no characters does. -/
theorem skips_stopsAtFirst (c : Cursor) :
    (∀ target, c.StopsAtFirst (target <+: ·) (c.skipTo target)) ∧
    (∀ targets, c.StopsAtFirst (fun text => ∃ x ∈ text.head?, x ∈ targets)
      (c.skipToAny targets)) ∧
    c.StopsAtFirst (fun text => ∃ x ∈ text.head?, x = '\r' ∨ x = '\n') c.skipToLineEnd ∧
    c.skipTo [] = (true, c) ∧
    (c.skipToAny []).1 = false ∧ (c.skipToAny []).2.atEnd := by
  have hany : ∀ targets, c.StopsAtFirst (fun text => ∃ x ∈ text.head?, x ∈ targets)
      (c.skipToAny targets) := by
    simpa only [List.contains_iff_mem] using stopsAtFirst_skipToAny c
  refine ⟨stopsAtFirst_skipTo c, hany, ?_, ?_, ?_⟩
  · rw [skipToLineEnd]
    simpa only [List.mem_cons, List.not_mem_nil, or_false] using hany ['\r', '\n']
  · rw [skipTo, Text.find?_nil_left, jumpTo, jump_eq_iterate_advance, Function.iterate_zero_apply]
  · generalize ha : c.skipToAny [] = answer
    rcases ha ▸ hany [] with ⟨⟨⟨_, _, hx⟩, _⟩⟩ | ⟨_, hend⟩
    · exact absurd hx List.not_mem_nil
    · exact ⟨rfl, hend⟩

/-- The star before the one that is found begins no terminator. -/
example : (ofString "\n**/").skipTo ['*', '/'] =
    (true, ⟨['*', '\n'], ['*', '/'], ⟨2, 2, 2⟩⟩) := by decide

end ScriptLayout.Cursor
