/-!
# Searching a text

Where a text first occurs in another one. The empty text occurs everywhere, in
particular at the start and at the end.
-/

namespace ScriptLayout.Text

/-- The number of characters before the first occurrence of `target`. -/
def find? (target : List Char) : List Char → Option Nat
  | [] => if target.isEmpty then some 0 else none
  | c :: text => if target.isPrefixOf (c :: text) then some 0 else (find? target text).map (· + 1)

@[simp]
theorem find?_nil_left (text : List Char) : find? [] text = some 0 := by
  cases text <;> simp [find?]

end ScriptLayout.Text
