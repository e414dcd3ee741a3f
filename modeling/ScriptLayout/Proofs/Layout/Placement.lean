import ScriptLayout.Format
import ScriptLayout.Proofs.Lexer.Delivery

/-!
# Placing lexemes

Placing the tokens that a lexer delivers, with a look at the next one, is
placing the list of their lexemes (`placeAll`). Looking ahead is never at fault,
so a source always has a layout, and the layout depends on the lexemes of the
source only (`format_eq`).
-/

namespace ScriptLayout

namespace Layout

/-- Places lexemes one after the other, each with a look at the next one. -/
def placeAll (style : Style) (st : State) : List Lexeme → List Placing
  | [] => []
  | t :: ts =>
    place style st t ts.head? :: placeAll style (place style st t ts.head?).after ts

/-- Placing what a lexer delivers is placing its lexemes. -/
theorem placingsFrom_eq (style : Style) (st : State) (l : Lexer) :
    placingsFrom style st l = .ok (placeAll style st (l.toList.map Token.toLexeme)) := by
  induction hrem : l.remaining using Nat.strongRecOn generalizing st l with
  | ind n ih =>
    rw [placingsFrom]
    split
    · next hn => rw [Lexer.toList_of_next?_eq_none hn]; rfl
    · next t l' hn =>
      obtain ⟨hlt, hp⟩ := Lexer.remaining_of_next? hn
      obtain ⟨l'', hpeek, hlist⟩ := Lexer.peek_of_pending hp
      have hle := Lexer.remaining_of_peek hpeek
      rw [Lexer.toList_of_next?_eq_some hn]
      split
      · next he => exact absurd (hpeek.symm.trans he) (by simp)
      · next he =>
        obtain ⟨rfl, rfl⟩ := Prod.mk.inj (Except.ok.inj (hpeek.symm.trans he))
        dsimp only
        rw [ih l''.remaining (by omega) _ l'' rfl, hlist, List.map_cons, placeAll, List.head?_map]
        rfl

end Layout

/-- A source has a layout, and its lexemes determine it. -/
theorem format_eq (options : Options) (source : String) : format options source =
    .ok (Layout.render options.indent (Layout.placeAll options.toStyle {} (lexemes source))) := by
  rw [format, Layout.placings, Layout.placingsFrom_eq]
  rfl

end ScriptLayout
