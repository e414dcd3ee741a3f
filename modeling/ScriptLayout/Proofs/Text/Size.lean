import Mathlib.Data.String.Basic
import ScriptLayout.Text.Size

/-!
# Sizes in longer texts

The size of a text in bytes orders its beginnings as their lengths do: of two
beginnings, the one that takes no more bytes is where the other begins
(`exists_append_of_size_le`). The characters of a string begin where its beginnings end
(`isValid_iff_exists_append`), and the bytes from one such place to another are those of the
characters between them (`extract_toByteArray`).
-/

namespace ScriptLayout.Text

/-- The size of a string is that of its characters. -/
theorem size_toList (s : String) : size s.toList = s.utf8ByteSize := by
  rw [← String.utf8Len_toList]
  induction s.toList with
  | nil => rfl
  | cons c text ih => rw [size_cons, ih, String.utf8Len_cons, Nat.add_comm]

@[simp]
theorem size_reverse (text : List Char) : size text.reverse = size text := by
  induction text with
  | nil => rfl
  | cons c text ih => rw [List.reverse_cons, size_append, ih, size_cons, size_cons, size_nil]; omega

/-- Every character takes at least one byte. -/
theorem length_le_size (text : List Char) : text.length ≤ size text := by
  induction text with
  | nil => exact Nat.le_refl 0
  | cons c text ih =>
    have := c.utf8Size_pos
    rw [List.length_cons, size_cons]
    omega

theorem eq_nil_of_size_eq_zero {text : List Char} (h : size text = 0) : text = [] :=
  List.eq_nil_of_length_eq_zero (Nat.le_zero.1 (h ▸ length_le_size text))

/-- Of two beginnings of a text, the one that takes no more bytes is where the
    other begins. -/
theorem exists_append_of_size_le {front back front' back' : List Char}
    (h : front ++ back = front' ++ back') (hle : size front ≤ size front') :
    ∃ between, front' = front ++ between ∧ back = between ++ back' := by
  rcases List.append_eq_append_iff.1 h with ⟨between, hfront, hback⟩ | ⟨excess, rfl, rfl⟩
  · exact ⟨between, hfront, hback⟩
  · obtain rfl : excess = [] := eq_nil_of_size_eq_zero (by rw [size_append] at hle; omega)
    exact ⟨[], by simp, by simp⟩

/-- Where a piece of a text begins settles what comes before it. -/
theorem append_inj_of_size {front back front' back' : List Char}
    (h : front ++ back = front' ++ back') (hs : size front = size front') :
    front = front' ∧ back = back' := by
  obtain ⟨between, rfl, rfl⟩ := exists_append_of_size_le h hs.le
  rw [size_append] at hs
  obtain rfl : between = [] := eq_nil_of_size_eq_zero (by omega)
  exact ⟨(List.append_nil front).symm, List.nil_append back'⟩

/-! ### The bytes of a string -/

theorem size_toByteArray_ofList (text : List Char) :
    (String.ofList text).toByteArray.size = size text := by
  rw [String.size_toByteArray, ← size_toList, String.toList_ofList]

/-- The characters of a string begin where its beginnings end. -/
theorem isValid_iff_exists_append {s : String} {offset : Nat} :
    String.Pos.Raw.IsValid s ⟨offset⟩ ↔
      ∃ front back, s.toList = front ++ back ∧ size front = offset := by
  rw [String.Pos.Raw.isValid_iff_exists_append]
  constructor
  · rintro ⟨front, back, rfl, hoffset⟩
    refine ⟨front.toList, back.toList, String.toList_append, ?_⟩
    rw [size_toList]
    exact congrArg String.Pos.Raw.byteIdx hoffset.symm
  · rintro ⟨front, back, hs, rfl⟩
    refine ⟨.ofList front, .ofList back, ?_, ?_⟩
    · rw [← String.ofList_append, ← hs, String.ofList_toList]
    · exact congrArg String.Pos.Raw.mk (size_toByteArray_ofList front).symm

/-- The bytes between two places of a string are those of the characters there. -/
theorem extract_toByteArray {s : String} {front piece back : List Char}
    (h : s.toList = front ++ piece ++ back) :
    s.toByteArray.extract (size front) (size (front ++ piece)) =
      (String.ofList piece).toByteArray := by
  have hbytes : s.toByteArray = (String.ofList front).toByteArray ++
      ((String.ofList piece).toByteArray ++ (String.ofList back).toByteArray) := by
    rw [← String.ofList_toList (s := s), h, String.ofList_append, String.ofList_append,
      String.toByteArray_append, String.toByteArray_append, ByteArray.append_assoc]
  calc s.toByteArray.extract (size front) (size (front ++ piece))
      = s.toByteArray.extract ((String.ofList front).toByteArray.size + 0)
          ((String.ofList front).toByteArray.size + (String.ofList piece).toByteArray.size) := by
        rw [size_append, size_toByteArray_ofList, size_toByteArray_ofList, Nat.add_zero]
    _ = (String.ofList piece).toByteArray := by
        rw [hbytes, ByteArray.extract_append_size_add, ByteArray.extract_append_eq_left rfl]

end ScriptLayout.Text
