import ScriptLayout.Proofs.Format.Line
import ScriptLayout.Proofs.Lexer.Continuation

/-!
# The lines of braces

Where lines are broken around braces (`format_braces`), in a source that need not be
balanced. An opening brace ends its line, and a closing brace begins one, unless the two
follow one another at once: then nothing comes between them. By choice, an opening brace
begins a line as well.

The break after an opening brace is promised by the seam that the brace leaves, and kept
by the gap of the next token, whatever that is.
-/

namespace ScriptLayout

namespace Layout

variable {style : Style} {st : State} {t : Lexeme} {previous : Option Lexeme}

/-! ### The seam after an opening brace -/

/-- The line of an opening brace goes on for a closing one, and ends before all else. -/
theorem seam_place_openBrace (style : Style) (h : Fits st previous t) (hk : t.kind = .openBrace)
    (t' : Lexeme) : (place style st t (some t')).after.seam =
      if t'.kind = .closeBrace then .emptyPair else .broken := by
  have hrule (seam : Seam) : (rule style seam t (some t') (.ofState st)).2.seam =
      if t'.kind = .closeBrace then .emptyPair else .broken := by
    by_cases hk' : t'.kind = .closeBrace <;> simp [rule, hk, openBrace, nextIn, hk']
  rw [place]
  cases h with
  | start => exact hrule .start
  | broken hs | joined hs => rw [hs]; exact hrule _
  | remark _ _ _ hc => rw [hk] at hc; exact absurd hc (by decide)
  | emptyPair _ _ _ hk' | emptyItem _ _ _ hk' => exact absurd (hk.symm.trans hk') (by decide)

/-- Where the line has ended, the gap begins with a line break. -/
theorem exists_gap_of_broken (style : Style) (next : Option Lexeme) (h : st.seam = .broken) :
    ∃ depth gap, (place style st t next).gap = .line depth :: gap := by
  have hdraft := Draft.ofState_of_broken h
  obtain ⟨added, hgap, -⟩ := extends_rule (d := .ofState st) style .broken t next
    fun _ => by rw [hdraft]; rfl
  refine ⟨st.scopes.depth, added, ?_⟩
  have hplace : (place style st t next).gap = (rule style .broken t next (.ofState st)).1.gap := by
    rw [place, h]
  rw [hplace, hgap, hdraft]
  rfl

/-- In a pair of braces with nothing in it, nothing is left. -/
theorem gap_of_emptyPair (style : Style) (next : Option Lexeme) (h : st.seam = .emptyPair) :
    (place style st t next).gap = [] := by
  have hdraft := Draft.ofState_of_within st (by rw [h]; decide) (by rw [h]; decide)
  rw [place, h]
  simp only [closeEmptyPair, hdraft]

/-! ### The gap before a brace -/

theorem any_isLine_of_broken (style : Style) (next : Option Lexeme) (h : st.seam = .broken) :
    (place style st t next).gap.any Mark.isLine := by
  obtain ⟨depth, gap, hgap⟩ := exists_gap_of_broken (t := t) style next h
  rw [hgap]
  rfl

/-- A closing brace breaks the line, unless it is the first token or follows an opening
    one. -/
theorem any_isLine_closeBrace (style : Style) (next : Option Lexeme) (h : Fits st previous t)
    (hk : t.kind = .closeBrace) (hp : ∀ p ∈ previous, p.kind ≠ .openBrace) :
    previous = none ∨ (place style st t next).gap.any Mark.isLine := by
  cases h with
  | start => exact .inl rfl
  | broken hs => exact .inr (any_isLine_of_broken style next hs)
  | joined hs =>
    have hdraft := Draft.ofState_of_within st (by rw [hs]; decide) (by rw [hs]; decide)
    have hfirst : (labelDraft "case" (Draft.ofState st)).first = false := by
      rw [first_labelDraft, hdraft]
    rw [place, hs]
    simp [rule, hk, closeBrace_fst, hfirst, Mark.isLine]
  | remark _ _ _ hc => rw [hk] at hc; exact absurd hc (by decide)
  | emptyPair _ _ hk' => exact absurd hk' (hp _ rfl)
  | emptyItem _ _ _ hk' => exact absurd (hk.symm.trans hk') (by decide)

/-- By choice, so does an opening brace. -/
theorem any_isLine_openBrace (hstyle : style.openBraceOnNewLine) (next : Option Lexeme)
    (h : Fits st previous t) (hk : t.kind = .openBrace) :
    previous = none ∨ (place style st t next).gap.any Mark.isLine := by
  cases h with
  | start => exact .inl rfl
  | broken hs => exact .inr (any_isLine_of_broken style next hs)
  | joined hs =>
    have hdraft := Draft.ofState_of_within st (by rw [hs]; decide) (by rw [hs]; decide)
    rw [place, hs]
    simp [rule, hk, openBrace, hstyle, hdraft, Mark.isLine]
  | remark _ _ _ hc => rw [hk] at hc; exact absurd hc (by decide)
  | emptyPair _ _ _ hk' | emptyItem _ _ _ hk' => exact absurd (hk.symm.trans hk') (by decide)

end Layout

open Layout

variable {options : Options} {source : String} {k : Nat} {t : Lexeme}

/-- A token that breaks the line wherever it stands, unless it is the first one of all, is the
    first one on its line. -/
theorem firstOnLine_of_fits (hu : ∀ c ∈ options.indent.toList, Text.isBlank c)
    (hn : '\n' ∉ options.indent.toList) (ht : (lexemes source)[k]? = some t)
    (h : ∀ st next, Fits st (lexemeBefore source k) t → lexemeBefore source k = none ∨
      (place options.toStyle st t next).gap.any Mark.isLine) : FirstOnLine options source k := by
  have hplace := getElem?_placeAll options.toStyle {} (lexemes source) k
  rw [ht, Option.map_some] at hplace
  rcases h _ (lexemes source)[k + 1]? (fits_stateAfter options.toStyle ht) with hnone | hline
  · rw [lexemeBefore, List.getLast?_eq_none_iff, List.take_eq_nil_iff] at hnone
    rcases hnone with rfl | hnil
    · exact firstOnLine_zero hn ht
    · simp [hnil] at ht
  · exact firstOnLine_of_isLine hu hn hplace hline

/-! ### The result -/

/-- An opening brace is followed by a closing one at once, and by a line break if anything else
    follows. A closing brace that does not follow an opening one is the first token on its
    line, and so is an opening one if it is to be. -/
theorem format_braces (options : Options) (source : String) {k : Nat} {t : Lexeme}
    (hu : ∀ c ∈ options.indent.toList, Text.isBlank c) (hn : '\n' ∉ options.indent.toList)
    (ht : (lexemes source)[k]? = some t) :
    (∃ rest : String, format options source =
      .ok (String.ofList (textBefore options source k ++ t.text.toList) ++ rest)) ∧
    (t.kind = .openBrace → ∀ t', (lexemes source)[k + 1]? = some t' →
      if t'.kind = .closeBrace then
        textBefore options source (k + 1) = textBefore options source k ++ t.text.toList
      else textBefore options source k ++ t.text.toList ++ ['\n'] <+:
        textBefore options source (k + 1)) ∧
    (t.kind = .closeBrace → (∀ p ∈ lexemeBefore source k, p.kind ≠ .openBrace) →
      FirstOnLine options source k) ∧
    (t.kind = .openBrace → options.openBraceOnNewLine → FirstOnLine options source k) := by
  refine ⟨exists_format_eq hn ht, fun hk t' ht' => ?_, fun hk hp => ?_, fun hk hstyle => ?_⟩
  · have hplace := getElem?_placeAll options.toStyle {} (lexemes source) k
    have hplace' := getElem?_placeAll options.toStyle {} (lexemes source) (k + 1)
    rw [ht, ht', Option.map_some] at hplace
    rw [ht', Option.map_some, stateAfter_succ hplace] at hplace'
    have hseam := seam_place_openBrace options.toStyle (fits_stateAfter options.toStyle ht) hk t'
    rw [textBefore_eq_append hn hplace', toList_textAfter_succ options ht]
    split at hseam
    · next hclose =>
      rw [if_pos hclose, gap_of_emptyPair options.toStyle _ hseam]
      exact List.append_nil _
    · next hclose =>
      obtain ⟨depth, gap, hgap⟩ := exists_gap_of_broken (t := t') options.toStyle
        (lexemes source)[k + 1 + 1]? hseam
      rw [if_neg hclose, hgap, spell, List.prefix_append_right_inj]
      exact List.prefix_append ['\n'] _
  · exact firstOnLine_of_fits hu hn ht fun st next h =>
      any_isLine_closeBrace options.toStyle next h hk hp
  · exact firstOnLine_of_fits hu hn ht fun st next h => any_isLine_openBrace hstyle next h hk

/-- A brace with a choice of its line, after others that are not in pairs. -/
theorem format_braces_unpaired :
    (∀ c ∈ "\t".toList, Text.isBlank c) ∧ '\n' ∉ "\t".toList ∧
    (lexemes "if(a)\x7b\x7d\x7d\x7bb")[7]? = some ⟨.openBrace, "\x7b"⟩ ∧
    (lexemes "if(a)\x7b\x7d\x7d\x7bb")[8]? = some ⟨.symbol, "b"⟩ ∧
    textBefore { openBraceOnNewLine := true, indent := "\t" } "if(a)\x7b\x7d\x7d\x7bb" 7 ++
        "\x7b".toList ++ ['\n'] <+:
      textBefore { openBraceOnNewLine := true, indent := "\t" } "if(a)\x7b\x7d\x7d\x7bb" 8 ∧
    FirstOnLine { openBraceOnNewLine := true, indent := "\t" } "if(a)\x7b\x7d\x7d\x7bb" 7 := by
  have hu : ∀ c ∈ "\t".toList, Text.isBlank c := List.all_eq_true.1 rfl
  have hn : '\n' ∉ "\t".toList := by decide
  have ht : (lexemes "if(a)\x7b\x7d\x7d\x7bb")[7]? = some ⟨.openBrace, "\x7b"⟩ := by
    decide +kernel
  have ht' : (lexemes "if(a)\x7b\x7d\x7d\x7bb")[8]? = some ⟨.symbol, "b"⟩ := by decide +kernel
  obtain ⟨-, hopen, -, hline⟩ :=
    format_braces { openBraceOnNewLine := true, indent := "\t" } _ hu hn ht
  exact ⟨hu, hn, ht, ht', hopen rfl _ ht', hline rfl rfl⟩

end ScriptLayout
