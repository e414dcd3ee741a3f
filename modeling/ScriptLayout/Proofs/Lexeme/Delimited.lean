import ScriptLayout.Lexeme.Comment
import ScriptLayout.Lexeme.Quoted
import ScriptLayout.Lexeme.Regex
import ScriptLayout.Proofs.Text.Search

/-!
# Lexemes with a terminator

Strings, inline comments and regular expressions end with a terminator of their
own. Once it has come (`quoteCloses`, `commentCloses`, `regexCloses`), the text
that follows has no influence on where the lexeme ends, but for the letters
after a regular expression, which are its flags.
-/

namespace ScriptLayout.Lexeme

variable {text rest rest' : List Char}

/-! ### Inline comments -/

/-- An inline comment takes the slash and the star that it begins with. -/
theorem two_le_inlineCommentExtent (body : List Char) : 2 ≤ inlineCommentExtent body := by
  rw [inlineCommentExtent]
  split <;> omega

theorem inlineCommentExtent_le (body : List Char) :
    inlineCommentExtent body ≤ body.length + 2 := by
  rw [inlineCommentExtent]
  split
  · next n h =>
    have := Text.find?_le h
    simp only [List.length_cons, List.length_nil] at this
    omega
  · omega

/-- Whether a star and a slash stand in the text from within an inline comment. -/
def commentCloses (body : List Char) : Bool :=
  (Text.find? ['*', '/'] body).isSome

/-- A closed inline comment ends in the same place before every text. -/
theorem inlineCommentExtent_append (h : commentCloses text) :
    inlineCommentExtent (text ++ rest) = inlineCommentExtent (text ++ rest') := by
  obtain ⟨n, hn⟩ := Option.isSome_iff_exists.1 h
  rw [inlineCommentExtent, inlineCommentExtent, Text.find?_append hn, Text.find?_append hn]

/-! ### Strings -/

/-- A backslash takes the next character along in any case: one that it does not escape is
    none that ends the string. -/
theorem closingExtent_backslash {quote : Char} (hq : '\\' ≠ quote) (d : Char)
    (text : List Char) :
    closingExtent quote ('\\' :: d :: text) = 2 + closingExtent quote text := by
  by_cases hd : d = '\\' ∨ d = quote
  · rw [closingExtent, if_neg hq, if_pos ⟨rfl, hd⟩]
  · rw [closingExtent, if_neg hq, if_neg fun h => hd h.2]
    cases text with
    | nil => rfl
    | cons e text =>
      rw [closingExtent, if_neg fun h => hd (.inr h), if_neg fun h => hd (.inl h.1)]
      omega

theorem closingExtent_cons {quote c : Char} (hq : c ≠ quote) (hb : c ≠ '\\') (d : Char)
    (text : List Char) :
    closingExtent quote (c :: d :: text) = 1 + closingExtent quote (d :: text) := by
  rw [closingExtent, if_neg hq, if_neg fun h => hb h.1]

/-- Whether a quote that belongs to no escape stands in the text from within a
    string. -/
def quoteCloses (quote : Char) : List Char → Bool
  | [] => false
  | [c] => c == quote
  | c :: d :: text =>
    if c = quote then true
    else if c = '\\' then quoteCloses quote text
    else quoteCloses quote (d :: text)

theorem closingExtent_le (quote : Char) (text : List Char) :
    closingExtent quote text ≤ text.length := by
  fun_induction closingExtent quote text with
  | case1 => exact Nat.le_refl _
  | case2 => exact Nat.le_refl _
  | case3 => simp
  | case4 => simp only [List.length_cons]; omega
  | case5 c d text _ _ ih => simp only [List.length_cons] at ih ⊢; omega

/-- A closed string ends in the same place before every text. -/
theorem closingExtent_append {quote : Char} (hc : quoteCloses quote text) (rest : List Char) :
    closingExtent quote (text ++ rest) = closingExtent quote text := by
  fun_induction quoteCloses quote text with
  | case1 => exact absurd hc Bool.false_ne_true
  | case2 c =>
    obtain rfl := beq_iff_eq.1 hc
    cases rest with
    | nil => rfl
    | cons d rest => simp [closingExtent]
  | case3 d text => simp [closingExtent]
  | case4 d text hq ih =>
    rw [List.cons_append, List.cons_append, closingExtent_backslash hq,
      closingExtent_backslash hq, ih hc]
  | case5 c d text hq hb ih =>
    rw [List.cons_append, List.cons_append, closingExtent_cons hq hb, closingExtent_cons hq hb,
      ← List.cons_append, ih hc]

/-! ### Regular expressions -/

/-- Whether a slash that belongs to no escape or class stands in the text from
    within a regular expression, in a class or not. -/
def regexCloses (inClass : Bool) : List Char → Bool
  | [] => false
  | [c] => c == '/' && !inClass
  | c :: d :: text =>
    if c = '/' ∧ inClass = false then true
    else if c = '\\' ∧ isRegexEscape d then regexCloses inClass text
    else regexCloses (classAfter inClass c) (d :: text)

theorem regexTail_le (inClass : Bool) (text : List Char) :
    regexTail inClass text ≤ text.length := by
  fun_induction regexTail inClass text with
  | case5 inClass c d text _ hc =>
    have := (List.takeWhile_prefix (l := d :: text) Text.isAlphabetic).length_le
    simp only [List.length_cons] at this ⊢
    omega
  | _ => grind

/-- A closed regular expression takes the letters that follow it, and nothing
    else. -/
theorem regexTail_append {inClass : Bool} (hc : regexCloses inClass text)
    (h : regexTail inClass (text ++ rest) = text.length) :
    regexTail inClass (text ++ rest') =
      text.length + (rest'.takeWhile Text.isAlphabetic).length := by
  fun_induction regexCloses inClass text with
  | case1 => exact absurd hc Bool.false_ne_true
  | case2 inClass c =>
    simp only [Bool.and_eq_true, beq_iff_eq, Bool.not_eq_true'] at hc
    obtain ⟨rfl, rfl⟩ := hc
    cases rest' <;> simp [regexTail, isLineBreak]
  | case3 inClass c d text hcl =>
    -- After the terminator the text consists of flags, and more of them may follow.
    obtain ⟨rfl, rfl⟩ := hcl
    have hl (text : List Char) : regexTail false ('/' :: d :: text) =
        1 + ((d :: text).takeWhile Text.isAlphabetic).length := by
      simp [regexTail, isLineBreak]
    rw [List.cons_append, List.cons_append, hl] at h ⊢
    have hall : ∀ c ∈ d :: text, Text.isAlphabetic c :=
      @Text.all_of_length_takeWhile (d :: text) rest _
        (by simp only [List.cons_append, List.length_cons] at h ⊢; omega)
    rw [← List.cons_append, List.takeWhile_append_of_pos hall, List.length_append]
    simp only [List.length_cons]
    omega
  | case4 inClass c d text hcl hesc ih =>
    obtain ⟨rfl, hd⟩ := hesc
    have hl (text : List Char) :
        regexTail inClass ('\\' :: d :: text) = 2 + regexTail inClass text := by
      simp [regexTail, isLineBreak, hd]
    simp only [List.cons_append, hl, List.length_cons] at h ⊢
    rw [ih hc (by omega)]
    omega
  | case5 inClass c d text hcl hesc ih =>
    -- It would have ended at a line break, before the end of the text.
    have hb : isLineBreak c = false := by
      by_contra hb
      rw [List.cons_append, regexTail.eq_def] at h
      simp [hb] at h
    have hl (text : List Char) : regexTail inClass (c :: d :: text) =
        1 + regexTail (classAfter inClass c) (d :: text) := by
      rw [regexTail.eq_def]
      simp [hb, hcl, hesc]
    simp only [List.cons_append, hl, List.length_cons] at h ih ⊢
    rw [ih hc (by omega)]
    omega

end ScriptLayout.Lexeme
