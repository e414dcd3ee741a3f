/-!
# The size of a text

Columns, lengths and offsets count the bytes of the UTF-8 encoding. Texts under
examination are lists of characters, and their size is the sum of those of the
characters, so that it is additive (`Text.size_append`).
-/

namespace ScriptLayout.Text

/-- The number of bytes that a text takes in UTF-8. -/
def size : List Char → Nat
  | [] => 0
  | c :: text => c.utf8Size + size text

@[simp]
theorem size_nil : size [] = 0 := rfl

@[simp]
theorem size_cons (c : Char) (text : List Char) : size (c :: text) = c.utf8Size + size text := rfl

@[simp]
theorem size_append (front back : List Char) : size (front ++ back) = size front + size back := by
  induction front with
  | nil => simp
  | cons c front ih => simp [ih, Nat.add_assoc]

end ScriptLayout.Text
