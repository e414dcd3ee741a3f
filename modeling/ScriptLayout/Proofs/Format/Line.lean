import ScriptLayout.Proofs.Format.Indentation

/-!
# The lines of a layout

What stands on the line of a token before the token. The text before a token is what has
been written up to the one before it, and the gap between them (`textBefore_eq_append`), so
that a token with a line break in its gap is the first on its line (`FirstOnLine`).
-/

namespace ScriptLayout

open Layout

variable {options : Options} {source : String} {k : Nat} {p : Placing} {t : Lexeme}

/-! ### The text before a token -/

theorem textBefore_eq (hp : (placeAll options.toStyle {} (lexemes source))[k]? = some p) :
    textBefore options source k = (p.gap.foldl (Mark.write options.indent.toList)
      (textAfter options source k).toList.reverse).reverse := by
  rw [textBefore, textAfter, String.toList_ofList, List.reverse_reverse]
  simp only [hp]
  rfl

/-- The text after a token is the text before it and its own. -/
theorem toList_textAfter_succ (options : Options) (ht : (lexemes source)[k]? = some t) :
    (textAfter options source (k + 1)).toList =
      textBefore options source k ++ t.text.toList := by
  obtain ⟨p, hp, htext⟩ := exists_placing options.toStyle {} ht
  rw [textBefore_eq hp, textAfter, textAfter, String.toList_ofList, String.toList_ofList,
    List.reverse_reverse, writtenAfter_succ hp, Placing.write, List.reverseAux_eq,
    List.reverse_append, List.reverse_reverse, htext]

/-- A formatted source begins with the text up to any of its tokens. -/
theorem exists_format_eq (hn : '\n' ∉ options.indent.toList)
    (ht : (lexemes source)[k]? = some t) : ∃ rest : String, format options source =
      .ok (String.ofList (textBefore options source k ++ t.text.toList) ++ rest) := by
  obtain ⟨rest, hrest⟩ := exists_render_eq hn options.toStyle (lexemes source) (k + 1)
  refine ⟨rest, ?_⟩
  rw [format_eq, hrest, ← toList_textAfter_succ options ht, String.ofList_toList]
  rfl

/-- The text before a token is what has been written, and the gap. -/
theorem textBefore_eq_append (hn : '\n' ∉ options.indent.toList)
    (hp : (placeAll options.toStyle {} (lexemes source))[k]? = some p) :
    textBefore options source k =
      (textAfter options source k).toList ++ spell options.indent.toList p.gap := by
  obtain ⟨hs, hd⟩ := steady_placeAll options.toStyle (lexemes source)
  have hfound : p.gap.head? ≠ some .dedent ∨ (textAfter options source k).toList.reverse = [] := by
    cases k with
    | zero => exact .inr rfl
    | succ k =>
      rw [← List.getElem?_tail] at hp
      exact .inl (hd p (List.mem_of_getElem? hp))
  rw [textBefore_eq hp, (foldl_write hn (hs p (List.mem_of_getElem? hp))).2 _ hfound,
    List.reverse_append, List.reverse_reverse, List.reverse_reverse]

/-- The line of a token before its rule is followed. -/
theorem begun_draftAt (hn : '\n' ∉ options.indent.toList) (ht : (lexemes source)[k]? = some t) :
    (draftAt options source k).Begun options.indent.toList
      (writtenAfter options.indent.toList (placeAll options.toStyle {} (lexemes source)) k) := by
  obtain ⟨previous, hfits, hprevious⟩ := exists_fits options.toStyle ht
  refine begun_ofState hn hfits (fun hnone => ?_) fun p hp => ?_
  · rw [hprevious.1 hnone]
    rfl
  · obtain ⟨k, rfl⟩ : ∃ k', k = k' + 1 := by
      refine Nat.exists_eq_succ_of_ne_zero fun hk => ?_
      exact absurd ((hprevious.2 hk).symm.trans hp) (by simp)
    exact endsVisibly_writtenAfter _ _ (List.getElem?_eq_some_iff.1 ht).1

/-! ### The first token on a line -/

/-- The token with the number `k` is the first on its line. -/
def FirstOnLine (options : Options) (source : String) (k : Nat) : Prop :=
  ∀ c ∈ Text.lastLine (textBefore options source k), Text.isBlank c

/-- The first token of all is one. -/
theorem firstOnLine_zero (hn : '\n' ∉ options.indent.toList)
    (ht : (lexemes source)[0]? = some t) : FirstOnLine options source 0 := by
  have hplace := getElem?_placeAll options.toStyle {} (lexemes source) 0
  rw [ht, Option.map_some, stateAfter_zero] at hplace
  rw [FirstOnLine, textBefore_eq_append hn hplace,
    (gapped_place options.toStyle _ (.start t)).spell_eq_nil]
  exact fun c hc => absurd hc List.not_mem_nil

/-- So is any token with a line break in its gap. -/
theorem firstOnLine_of_isLine (hu : ∀ c ∈ options.indent.toList, Text.isBlank c)
    (hn : '\n' ∉ options.indent.toList)
    (hp : (placeAll options.toStyle {} (lexemes source))[k]? = some p)
    (hl : p.gap.any Mark.isLine) : FirstOnLine options source k := by
  have hline : '\n' ∈ spell options.indent.toList p.gap := by
    rw [← List.count_pos_iff, count_newline_spell hn, List.countP_pos_iff]
    exact List.any_eq_true.1 hl
  rw [FirstOnLine, textBefore_eq_append hn hp]
  exact fun c hc => isBlank_of_mem_spell hu c ((Text.lastLine_suffix_of_mem hline _).subset hc)

end ScriptLayout
