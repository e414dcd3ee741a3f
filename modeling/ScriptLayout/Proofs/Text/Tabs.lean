import ScriptLayout.Options

/-!
# Writing tabs and reading them back

A text with its tabs written out contains no tab, and a text with its written tabs read
contains no written tab. So a text that has either cannot come back from one followed by
the other, and it is the only obstacle: reading undoes writing wherever no tab is written
already (`unescapeTabs_escapeTabs`), and writing undoes reading wherever there is no tab
(`escapeTabs_unescapeTabs`).

Both work through the text piece by piece. Writing does so wherever the text is cut, and
reading wherever no `t` comes after the cut (`unescapeTabs_append`): so it does not matter
how many backslashes stand before a tab or a written one (`escapes_inverse`).
-/

namespace ScriptLayout

namespace Text

variable {c : Char} {text front back : List Char}

theorem writtenTab_prefix_cons_iff :
    ['\\', 't'] <+: c :: text ↔ c = '\\' ∧ text.head? = some 't' := by
  cases text with
  | nil => simp [List.cons_prefix_cons]
  | cons d text => simp [List.cons_prefix_cons, eq_comm]

/-! ### Writing -/

theorem escapeTabs_append (front back : List Char) :
    escapeTabs (front ++ back) = escapeTabs front ++ escapeTabs back := by
  induction front with
  | nil => rfl
  | cons c front ih => by_cases hc : c = '\t' <;> simp [escapeTabs, hc, ih]

theorem escapeTabs_of_not_mem (h : '\t' ∉ text) : escapeTabs text = text := by
  induction text with
  | nil => rfl
  | cons c text ih =>
    rw [List.mem_cons, not_or] at h
    rw [escapeTabs, if_neg (Ne.symm h.1), ih h.2]

/-- A text with its tabs written out has none. -/
theorem not_mem_escapeTabs (text : List Char) : '\t' ∉ escapeTabs text := by
  induction text with
  | nil => exact List.not_mem_nil
  | cons c text ih =>
    rw [escapeTabs]
    split
    · simpa using ih
    · next hc => simpa [eq_comm] using ⟨hc, ih⟩

/-- What is written for a tab does not begin with the letter. -/
theorem head?_of_head?_escapeTabs (h : (escapeTabs text).head? = some 't') :
    text.head? = some 't' := by
  cases text with
  | nil => exact h
  | cons c text =>
    rw [escapeTabs] at h
    split at h
    · exact absurd h (by simp)
    · exact h

/-! ### Reading -/

@[simp]
theorem unescapeTabs_writtenTab (text : List Char) :
    unescapeTabs ('\\' :: 't' :: text) = '\t' :: unescapeTabs text := by
  rw [unescapeTabs, if_pos ⟨rfl, rfl⟩]

theorem unescapeTabs_cons (h : ¬ ['\\', 't'] <+: c :: text) :
    unescapeTabs (c :: text) = c :: unescapeTabs text := by
  cases text with
  | nil => rfl
  | cons d text =>
    rw [writtenTab_prefix_cons_iff] at h
    rw [unescapeTabs, if_neg fun hp => h ⟨hp.1, congrArg some hp.2⟩]

/-- A written tab is not cut where no `t` comes next. -/
theorem unescapeTabs_append (h : back.head? ≠ some 't') :
    unescapeTabs (front ++ back) = unescapeTabs front ++ unescapeTabs back := by
  fun_induction unescapeTabs front with
  | case1 => rfl
  | case2 c =>
    -- Across the cut, a written tab would need the letter after it.
    exact unescapeTabs_cons fun hp => h (writtenTab_prefix_cons_iff.1 hp).2
  | case3 c d front hp ih =>
    obtain ⟨rfl, rfl⟩ := hp
    rw [List.cons_append, List.cons_append, unescapeTabs_writtenTab, ih, List.cons_append]
  | case4 c d front hp ih =>
    rw [List.cons_append, List.cons_append, unescapeTabs, if_neg hp, ← List.cons_append, ih,
      List.cons_append]

theorem unescapeTabs_of_not_mem (h : 't' ∉ text) : unescapeTabs text = text := by
  induction text with
  | nil => rfl
  | cons c text ih =>
    rw [List.mem_cons, not_or] at h
    rw [unescapeTabs_cons, ih h.2]
    exact fun hp => h.2 (List.mem_of_mem_head? (writtenTab_prefix_cons_iff.1 hp).2)

/-- What is read begins with the letter only where the text did. -/
theorem head?_of_head?_unescapeTabs (h : (unescapeTabs text).head? = some 't') :
    text.head? = some 't' := by
  fun_cases unescapeTabs text with
  | case1 => exact h
  | case2 c => exact h
  | case3 c d text hp =>
    rw [unescapeTabs, if_pos hp] at h
    exact absurd h (by simp)
  | case4 c d text hp =>
    rw [unescapeTabs, if_neg hp] at h
    exact h

/-- A text with its written tabs read has none. The backslash of a new one would have
    been read by itself, before a character that is not the letter, and nothing that is
    read puts the letter in its place. -/
theorem not_infix_unescapeTabs (text : List Char) : ¬ ['\\', 't'] <:+: unescapeTabs text := by
  fun_induction unescapeTabs text with
  | case1 => decide
  | case2 c => exact fun h => absurd h.length_le (by simp)
  | case3 c d text _ ih =>
    rw [List.infix_cons_iff, writtenTab_prefix_cons_iff]
    exact fun h => h.elim (fun hp => absurd hp.1 (by decide)) ih
  | case4 c d text hp ih =>
    rw [List.infix_cons_iff, writtenTab_prefix_cons_iff]
    refine fun h => h.elim (fun hw => hp ⟨hw.1, ?_⟩) ih
    exact Option.some.inj (head?_of_head?_unescapeTabs hw.2)

/-! ### One after the other -/

/-- Writing undoes reading where there are no tabs. -/
theorem escapeTabs_unescapeTabs (h : '\t' ∉ text) : escapeTabs (unescapeTabs text) = text := by
  fun_induction unescapeTabs text with
  | case1 => rfl
  | case2 c => exact escapeTabs_of_not_mem h
  | case3 c d text hp ih =>
    obtain ⟨rfl, rfl⟩ := hp
    rw [escapeTabs, if_pos rfl, ih fun hm => h (.tail _ (.tail _ hm))]
  | case4 c d text hp ih =>
    rw [List.mem_cons, not_or] at h
    rw [escapeTabs, if_neg (Ne.symm h.1), ih h.2]

/-- Reading undoes writing where no tabs are written. -/
theorem unescapeTabs_escapeTabs (h : ¬ ['\\', 't'] <:+: text) :
    unescapeTabs (escapeTabs text) = text := by
  induction text with
  | nil => rfl
  | cons c text ih =>
    rw [List.infix_cons_iff, not_or, writtenTab_prefix_cons_iff] at h
    rw [escapeTabs]
    split
    · next hc => rw [unescapeTabs_writtenTab, ih h.2, hc]
    · -- A backslash is followed by what follows it in the text, or by another backslash.
      rw [unescapeTabs_cons, ih h.2]
      rw [writtenTab_prefix_cons_iff]
      exact fun hp => h.1 ⟨hp.1, head?_of_head?_escapeTabs hp.2⟩

theorem escapeTabs_unescapeTabs_iff : escapeTabs (unescapeTabs text) = text ↔ '\t' ∉ text :=
  ⟨fun h => h ▸ not_mem_escapeTabs _, escapeTabs_unescapeTabs⟩

theorem unescapeTabs_escapeTabs_iff :
    unescapeTabs (escapeTabs text) = text ↔ ¬ ['\\', 't'] <:+: text :=
  ⟨fun h => h ▸ not_infix_unescapeTabs _, unescapeTabs_escapeTabs⟩

/-! ### Backslashes before a tab -/

/-- Backslashes before a tab are left as they are. -/
theorem escapeTabs_backslashes (front back : List Char) (n : Nat) :
    escapeTabs (front ++ List.replicate n '\\' ++ '\t' :: back) =
      escapeTabs front ++ List.replicate n '\\' ++ '\\' :: 't' :: escapeTabs back := by
  have hrun : escapeTabs (List.replicate n '\\') = List.replicate n '\\' :=
    escapeTabs_of_not_mem fun h => absurd (List.eq_of_mem_replicate h) (by decide)
  rw [escapeTabs_append, escapeTabs_append, hrun, escapeTabs, if_pos rfl]

/-- Backslashes before a written tab are left as they are. -/
theorem unescapeTabs_backslashes (front back : List Char) (n : Nat) :
    unescapeTabs (front ++ List.replicate n '\\' ++ '\\' :: 't' :: back) =
      unescapeTabs front ++ List.replicate n '\\' ++ '\t' :: unescapeTabs back := by
  have hhead : (List.replicate n '\\').head? ≠ some 't' := fun h =>
    absurd (List.eq_of_mem_replicate (List.mem_of_mem_head? h)) (by decide)
  have hrun : unescapeTabs (List.replicate n '\\') = List.replicate n '\\' :=
    unescapeTabs_of_not_mem fun h => absurd (List.eq_of_mem_replicate h) (by decide)
  rw [unescapeTabs_append (by simp), unescapeTabs_append hhead, hrun, unescapeTabs_writtenTab]

end Text

/-! ### The result -/

/-- A text comes back from the unit of indentation that it stands for if and only if there
    is no tab in it, and a unit from its tabs written out if and only if no tab is written
    in it already. Backslashes before a tab, written or not, are left as they are. -/
theorem Options.escapes_inverse :
    (∀ (o : Options) (text : String),
      { o with indent := unescapeIndent text }.escapedIndent = text ↔ '\t' ∉ text.toList) ∧
    (∀ o : Options,
      unescapeIndent o.escapedIndent = o.indent ↔ ¬ ['\\', 't'] <:+: o.indent.toList) ∧
    ∀ (front back : String) (n : Nat), let run := String.ofList (List.replicate n '\\')
      unescapeIndent (front ++ run ++ "\\t" ++ back) =
        unescapeIndent front ++ run ++ "\t" ++ unescapeIndent back ∧
      ∀ o : Options, { o with indent := front ++ run ++ "\t" ++ back }.escapedIndent =
        { o with indent := front }.escapedIndent ++ run ++ "\\t" ++
          { o with indent := back }.escapedIndent := by
  -- Strings are equal where their characters are, and only the texts are left to look at.
  refine ⟨fun o text => ?_, fun o => ?_, fun front back n => ⟨?_, fun o => ?_⟩⟩
  · rw [← Text.escapeTabs_unescapeTabs_iff, escapedIndent, unescapeIndent, String.toList_ofList,
      ← String.toList_inj, String.toList_ofList]
  · rw [← Text.unescapeTabs_escapeTabs_iff, escapedIndent, unescapeIndent, String.toList_ofList,
      ← String.toList_inj, String.toList_ofList]
  · have h := Text.unescapeTabs_backslashes front.toList back.toList n
    rw [← String.toList_inj]
    simpa [unescapeIndent] using h
  · have h := Text.escapeTabs_backslashes front.toList back.toList n
    rw [← String.toList_inj]
    simpa [escapedIndent] using h

/-- Two backslashes before the letter stand for a backslash and a tab. -/
example : Options.unescapeIndent "\\\\t" = "\\\t" := by decide

end ScriptLayout
