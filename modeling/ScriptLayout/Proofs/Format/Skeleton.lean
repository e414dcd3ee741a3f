import ScriptLayout.Proofs.Format.Respacing

/-!
# Layouts in any unit of indentation

The unit of indentation has no say in a layout but for what it is. The layout of
a source is settled up to the text of a level: it is a list of pieces, among them
numbers of levels (`Layout.skeleton`), and for every unit without a line break
the formatted source is what comes of the pieces when the levels are filled in
(`exists_skeleton`).

Levels are taken back by a look at the text written so far, which the unit is
part of. That the look finds the level it is meant for, whatever the tokens end
in, is `Layout.render_eq`; here the levels taken back are counted.
-/

namespace ScriptLayout

namespace Layout

variable {unit : List Char} {gap : List Mark}

/-- A piece of a layout for which it is open what a level consists of. -/
inductive Piece where
  /-- The text of a token. -/
  | token (text : String)
  /-- A space. -/
  | space
  /-- A line break. -/
  | lineBreak
  /-- A number of levels of indentation. -/
  | levels (depth : Nat)
  deriving DecidableEq, Repr

namespace Piece

/-- The text of the token, if the piece is one. -/
def token? : Piece → Option String
  | token text => some text
  | space | lineBreak | levels _ => none

/-- The text of a piece: only that of levels takes the unit. -/
def fill (unit : List Char) : Piece → List Char
  | token text => text.toList
  | space => [' ']
  | lineBreak => ['\n']
  | levels depth => Layout.levels unit depth

end Piece

/-- The text of some pieces. -/
def fill (unit : String) (pieces : List Piece) : String :=
  String.ofList (pieces.flatMap (Piece.fill unit.toList))

/-- The pieces of a gap. The levels of a line break are those that are not taken
    back right after it. -/
def gapPieces : List Mark → List Piece
  | [] => []
  | .space :: gap => .space :: gapPieces gap
  | .line depth :: gap => .lineBreak :: .levels (depth - dedents gap) :: gapPieces gap
  | .dedent :: gap => gapPieces gap

/-- The pieces of a layout: the tokens, each after its gap, and a line break. -/
def skeleton (layout : List Placing) : List Piece :=
  layout.flatMap (fun p => gapPieces p.gap ++ [.token p.text]) ++ [.lineBreak]

/-! ### Filling in the levels -/

theorem flatMap_fill_gapPieces (unit : List Char) (gap : List Mark) :
    (gapPieces gap).flatMap (Piece.fill unit) = spell unit gap := by
  induction gap with
  | nil => rfl
  | cons m gap ih =>
    cases m with
    | space => rw [gapPieces, List.flatMap_cons, ih, spell]; rfl
    | line depth => rw [gapPieces, List.flatMap_cons, List.flatMap_cons, ih, spell]; rfl
    | dedent => rw [gapPieces, ih, spell]

/-- The pieces of a layout, filled in, are its text. -/
theorem flatMap_fill_skeleton (unit : List Char) (layout : List Placing) :
    (skeleton layout).flatMap (Piece.fill unit) = spellAll unit layout ++ ['\n'] := by
  rw [skeleton, List.flatMap_append, List.flatMap_assoc, spellAll]
  congr 2
  funext p
  rw [List.flatMap_append, flatMap_fill_gapPieces]
  exact congrArg _ (List.append_nil _)

/-! ### The tokens among the pieces -/

theorem filterMap_token?_gapPieces (gap : List Mark) :
    (gapPieces gap).filterMap Piece.token? = [] := by
  induction gap with
  | nil => rfl
  | cons m gap ih =>
    cases m with
    | space | dedent => exact ih
    | line depth => exact ih

theorem filterMap_token?_skeleton (layout : List Placing) :
    (skeleton layout).filterMap Piece.token? = layout.map Placing.text := by
  have hp (p : Placing) :
      (gapPieces p.gap ++ [Piece.token p.text]).filterMap Piece.token? = [p.text] := by
    rw [List.filterMap_append, filterMap_token?_gapPieces]
    rfl
  rw [skeleton, List.filterMap_append, List.filterMap_flatMap]
  simp only [hp]
  rw [← List.map_eq_flatMap]
  exact List.append_nil _

end Layout

/-! ### The result -/

/-- A source has a layout that is settled up to the unit of indentation: the tokens
    in their order, with spaces, line breaks and numbers of levels between them,
    which stay what they are whatever a level consists of. -/
theorem exists_skeleton (style : Style) (source : String) : ∃ pieces : List Layout.Piece,
    pieces.filterMap Layout.Piece.token? = (lexemes source).map Lexeme.text ∧
      ∀ unit : String, '\n' ∉ unit.toList →
        format { toStyle := style, indent := unit } source = .ok (Layout.fill unit pieces) := by
  refine ⟨Layout.skeleton (Layout.placeAll style {} (lexemes source)), ?_, fun unit hn => ?_⟩
  · rw [Layout.filterMap_token?_skeleton, Layout.map_text_placeAll]
  · rw [format_eq, Layout.render_placeAll hn, Layout.fill, Layout.flatMap_fill_skeleton]

/-- A label and a block that are closed at the beginning of a line, in a unit that
    the token before it ends in, and in none. -/
theorem exists_skeleton_switch :
    '\n' ∉ ";".toList ∧ '\n' ∉ "".toList ∧ ∃ pieces : List Layout.Piece,
      pieces.filterMap Layout.Piece.token? =
        (lexemes "switch(a){case 1:;}").map Lexeme.text ∧
      format { indent := ";" } "switch(a){case 1:;}" = .ok (Layout.fill ";" pieces) ∧
      format { indent := "" } "switch(a){case 1:;}" = .ok (Layout.fill "" pieces) := by
  obtain ⟨pieces, htokens, hformat⟩ := exists_skeleton {} "switch(a){case 1:;}"
  have hn : '\n' ∉ ";".toList := by decide
  have hn' : '\n' ∉ "".toList := by decide
  exact ⟨hn, hn', pieces, htokens, hformat ";" hn, hformat "" hn'⟩

end ScriptLayout
