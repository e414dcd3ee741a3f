import ScriptLayout.Proofs.Lexeme.Delimited

/-!
# Lexemes without their terminator

A string or an inline comment that has not been closed goes to the end of the
text (`eq_nil_of_not_quoteCloses`, `eq_nil_of_not_commentCloses`). A regular
expression that has not been closed goes to the end of its line, and ends there
whatever comes after (`regexTail_append_iff`).
-/

namespace ScriptLayout.Lexeme

variable {text rest rest' : List Char}

/-! ### Strings and inline comments -/

theorem closingExtent_pos (quote c : Char) (text : List Char) :
    0 < closingExtent quote (c :: text) := by
  cases text with
  | nil => exact Nat.one_pos
  | cons d text =>
    rw [closingExtent]
    split
    · exact Nat.one_pos
    · split <;> omega

/-- After a string that is not closed the text ends. -/
theorem eq_nil_of_not_quoteCloses {quote : Char} (hc : quoteCloses quote text = false)
    (h : closingExtent quote (text ++ rest) = text.length) : rest = [] := by
  fun_induction quoteCloses quote text with
  | case1 =>
    cases rest with
    | nil => rfl
    | cons d rest => exact absurd h (Nat.ne_of_gt (closingExtent_pos quote d rest))
  | case2 c =>
    cases rest with
    | nil => rfl
    | cons d rest =>
      have hpos := closingExtent_pos quote d rest
      rw [List.singleton_append, closingExtent, if_neg (by simpa using hc),
        List.length_singleton] at h
      split at h <;> omega
  | case3 => exact absurd hc (by simp)
  | case4 d text hq ih =>
    rw [List.cons_append, List.cons_append, closingExtent_backslash hq, List.length_cons,
      List.length_cons] at h
    exact ih hc (by omega)
  | case5 c d text hq hb ih =>
    rw [List.cons_append, List.cons_append, closingExtent_cons hq hb, ← List.cons_append,
      List.length_cons] at h
    exact ih hc (by omega)

/-- After an inline comment that is not closed the text ends. -/
theorem eq_nil_of_not_commentCloses (hc : commentCloses text = false)
    (h : inlineCommentExtent (text ++ rest) = text.length + 2) : rest = [] := by
  rw [inlineCommentExtent] at h
  split at h
  · next n hn =>
    have hfind := Text.find?_of_append hn (by simp only [List.length_cons, List.length_nil]; omega)
    rw [commentCloses, hfind] at hc
    exact absurd hc (by simp)
  · rw [List.length_append] at h
    exact List.eq_nil_of_length_eq_zero (by omega)

/-! ### Regular expressions -/

theorem regexTail_eq_zero_iff {inClass : Bool} :
    regexTail inClass text = 0 ↔ ∀ c ∈ text.head?, isLineBreak c := by
  cases text with
  | nil => simp [regexTail]
  | cons c text =>
    rw [List.head?_cons]
    by_cases hc : isLineBreak c
    · cases text <;> simp [regexTail, hc]
    · cases text with
      | nil => simp [regexTail, hc]
      | cons d text =>
        have hpos : regexTail inClass (c :: d :: text) ≠ 0 := by
          rw [regexTail, if_neg hc]
          split
          · omega
          · split <;> omega
        simp [hpos, hc]

/-- A character that ends nothing and escapes nothing is one more of a regular
    expression. -/
theorem regexTail_cons {inClass : Bool} {c : Char} (hb : isLineBreak c = false)
    (hcl : ¬ (c = '/' ∧ inClass = false)) (hesc : ¬ (c = '\\' ∧ text.head?.any isRegexEscape)) :
    regexTail inClass (c :: text) = 1 + regexTail (classAfter inClass c) text := by
  cases text with
  | nil => simp [regexTail, hb]
  | cons d text =>
    rw [List.head?_cons, Option.any_some] at hesc
    rw [regexTail, if_neg (by simp [hb]), if_neg hcl, if_neg hesc]

theorem regexTail_escape {inClass : Bool} {d : Char} (hd : isRegexEscape d) (text : List Char) :
    regexTail inClass ('\\' :: d :: text) = 2 + regexTail inClass text := by
  simp [regexTail, isLineBreak, hd]

/-- A line break is escaped by nothing. -/
theorem isRegexEscape_of_isLineBreak {c : Char} (h : isLineBreak c) : ¬ isRegexEscape c := by
  rcases Bool.or_eq_true_iff.1 h with h | h <;> obtain rfl := beq_iff_eq.1 h <;> decide

theorem isLineBreak_of_regexTail {inClass : Bool} {c : Char}
    (h : regexTail inClass (c :: text) ≠ 0) : isLineBreak c = false := by
  by_contra hc
  rw [Bool.not_eq_false] at hc
  refine h (regexTail_eq_zero_iff.2 ?_)
  rintro _ ⟨⟩
  exact hc

/-- A regular expression that is not closed ends before a line break and at the end of
    the text, and nowhere else. -/
theorem regexTail_append_iff {inClass : Bool} (hc : regexCloses inClass text = false)
    (h : regexTail inClass (text ++ rest) = text.length) :
    regexTail inClass (text ++ rest') = text.length ↔ ∀ c ∈ rest'.head?, isLineBreak c := by
  fun_induction regexCloses inClass text with
  | case1 => exact regexTail_eq_zero_iff
  | case2 inClass c =>
    have hb : isLineBreak c = false := isLineBreak_of_regexTail (h.trans_ne (Nat.succ_ne_zero _))
    have hcl : ¬ (c = '/' ∧ inClass = false) := by simpa using hc
    rw [List.singleton_append, List.length_singleton]
    by_cases hesc : c = '\\' ∧ rest'.head?.any isRegexEscape
    · -- The backslash would take the next character along, which is no line break.
      obtain ⟨rfl, hany⟩ := hesc
      obtain ⟨d, hd, hescape⟩ := (Option.any_eq_true _ _).1 hany
      obtain ⟨rest', rfl⟩ := List.head?_eq_some_iff.1 hd
      rw [regexTail_escape hescape]
      refine ⟨fun h => by omega, fun hr => ?_⟩
      exact absurd hescape (isRegexEscape_of_isLineBreak (hr d rfl))
    · rw [regexTail_cons hb hcl hesc, Nat.add_eq_left, regexTail_eq_zero_iff]
  | case3 => exact absurd hc (by simp)
  | case4 inClass c d text hcl hesc ih =>
    obtain ⟨rfl, hd⟩ := hesc
    simp only [List.cons_append, regexTail_escape hd, List.length_cons] at h ⊢
    rw [← ih hc (by omega)]
    omega
  | case5 inClass c d text hcl hesc ih =>
    have hb : isLineBreak c = false := isLineBreak_of_regexTail (h.trans_ne (Nat.succ_ne_zero _))
    have hstep (rest : List Char) : regexTail inClass (c :: d :: text ++ rest) =
        1 + regexTail (classAfter inClass c) (d :: text ++ rest) := by
      exact regexTail_cons hb hcl hesc
    rw [hstep, List.length_cons] at h
    rw [hstep, ← ih hc (by omega), List.length_cons]
    omega

end ScriptLayout.Lexeme
