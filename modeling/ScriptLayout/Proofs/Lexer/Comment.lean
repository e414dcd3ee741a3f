import ScriptLayout.Proofs.Lexer.Continuation

/-!
# Comments between tokens

A comment is a token like others, and the token after it is read in view of it. A slash
after a comment is never a division, and a sign or an increment never stands after an
operand, even if there is one right before the comment (`Lexeme.MissesOperand`). With a
space in place of the comment, the other tokens stay what they are, unless the one after
the comment misses its operand so (`lexemes_blanked_iff`).
-/

namespace ScriptLayout

variable {source : String} {k : Nat} {previous : Option Lexeme} {p t u : Lexeme}
  {ts ts' : List Lexeme} {text rest rest' : List Char} {c : Char}

namespace Lexeme

/-- The kinds of the values that a slash divides, besides words. -/
def dividends : List Kind :=
  [.closeParen, .closeBracket, .string, .number, .regex, .dot, .unarySuffix]

/-- Whether the lexeme `t` would be another one right after `p`, where it has an operand:
    a regular expression would be a division, and a prefix would stand between operands
    or after one. -/
def MissesOperand (p t : Lexeme) : Prop :=
  t.kind = .regex ∧
      (p.kind ∈ dividends ∨ p.kind = .symbol ∧ p.text ≠ "return" ∧ p.text ≠ "yield") ∨
    t.kind = .unaryPrefix ∧
      (t.text ∈ ["+", "-"] ∧ p.kind ∈ signOperands ∨
        t.text ∈ ["++", "--"] ∧ p.kind ∈ incrementOperands)

theorem regexAllowed_eq_false_iff : regexAllowed (some p) = false ↔
    p.kind ∈ dividends ∨ p.kind = .symbol ∧ p.text ≠ "return" ∧ p.text ≠ "yield" := by
  rw [regexAllowed]
  cases p.kind <;> simp [dividends]

/-- What misses its operand is not read right after it. -/
theorem Heads.not_missesOperand (h : t.Heads (some p) rest) : ¬ p.MissesOperand t := by
  rintro (⟨hk, hp⟩ | ⟨hk, hp⟩)
  · have hfalse := regexAllowed_eq_false_iff.2 hp
    obtain ⟨c, tail, -, -, hm⟩ := h
    rw [hk] at hm
    obtain ⟨-, hallowed, -⟩ : StartsAs (some p) c (tail ++ rest) .regex := hm.startsAs
    simp [hallowed] at hfalse
  · have hunary : operatorKind t.text.toList p.kind = .unaryPrefix :=
      (h.operator_of_kind (.inr (.inl hk))).1.trans hk
    rcases hp with ⟨ht, hp⟩ | ⟨ht, hp⟩
    · have hall : ∀ text ∈ ["+", "-"], ∀ kind ∈ signOperands,
          operatorKind text.toList kind = .binaryOperator := by decide
      exact absurd (hunary.symm.trans (hall _ ht _ hp)) (by decide)
    · have hall : ∀ text ∈ ["++", "--"], ∀ kind ∈ incrementOperands,
          operatorKind text.toList kind = .unarySuffix := by decide
      exact absurd (hunary.symm.trans (hall _ ht _ hp)) (by decide)

/-- What is read after a comment is read right after the lexeme before it, if it does not
    miss its operand. -/
theorem Heads.without_comment (h : t.Heads (some u) rest) (hu : u.kind = .inlineComment)
    (hp : ∀ p ∈ previous, ¬ p.MissesOperand t) : t.Heads previous rest := by
  obtain ⟨hregex, hsign, hincrement⟩ := context_of_startingKinds (t := u) (by rw [hu]; decide)
  refine h.in_context (fun hk => ?_) (fun hf => by simp [hregex] at hf) fun hk => ?_
  · cases previous with
    | none => rfl
    | some p =>
      by_contra hf
      exact hp p rfl (.inl ⟨hk, regexAllowed_eq_false_iff.1 (by simpa using hf)⟩)
  · have hkind : operatorKind t.text.toList .unknown = t.kind := by
      rw [← (h.operator_of_kind (by simpa using hk)).1]
      exact (operatorKind_eq_start (fun _ => hsign) fun _ => hincrement).symm
    cases previous with
    | none => exact hkind
    | some p =>
      have hnot := hp p rfl
      rw [← hkind]
      refine operatorKind_eq_start (fun ho hmem => hnot ?_) fun ho hmem => hnot ?_
      · have hall : ∀ text ∈ [['+'], ['-']], operatorKind text .unknown = .unaryPrefix ∧
            String.ofList text ∈ ["+", "-"] := by decide
        obtain ⟨hunary, ht⟩ := hall _ ho
        rw [String.ofList_toList] at ht
        exact .inr ⟨hkind.symm.trans hunary, .inl ⟨ht, hmem⟩⟩
      · have hall : ∀ text ∈ [['+', '+'], ['-', '-']],
            operatorKind text .unknown = .unaryPrefix ∧
              String.ofList text ∈ ["++", "--"] := by decide
        obtain ⟨hunary, ht⟩ := hall _ ho
        rw [String.ofList_toList] at ht
        exact .inr ⟨hkind.symm.trans hunary, .inr ⟨ht, hmem⟩⟩

theorem isLineBreak_eq_false (h : Text.isBlank c = false) : isLineBreak c = false := by
  rw [isLineBreak, Bool.or_eq_false_iff, beq_eq_false_iff_ne, beq_eq_false_iff_ne]
  constructor <;> rintro rfl <;> exact absurd h (by decide)

/-- What ends before a character that is no line break ends before a space. -/
theorem Heads.before_space (h : t.Heads previous (c :: rest)) (hc : isLineBreak c = false) :
    t.Heads previous (' ' :: rest') := by
  refine h.before_blank ?_ ?_ fun hk hcl => absurd (h.eq_nil hk hcl) (List.cons_ne_nil c rest)
  · rintro _ ⟨⟩
    decide
  · rintro (hk | ⟨hk, hcl⟩) d hd
    · have htakes := h.takes_eq_false (by rw [isClosed, hk]; rfl) (by rw [hk]; decide)
      simp [hk, takes, hc] at htakes
    · obtain ⟨e, tail, ht, -, hm⟩ := h
      rw [isClosed, ht] at hcl
      rcases hm.of_not_closes hcl with ⟨-, hnil⟩ | ⟨-, hbreak, -⟩
      · exact absurd hnil (List.cons_ne_nil c rest)
      · exact absurd (hbreak c rfl) (by simp [hc])

end Lexeme

/-! ### Reading with and without a comment -/

/-- Every lexeme of a text is read after the one before it. -/
theorem Reads.exists_heads (h : Reads previous text (ts ++ t :: ts')) :
    ∃ rest, t.Heads (ts.getLast?.or previous) rest := by
  induction ts generalizing previous text with
  | nil =>
    cases h with
    | @next _ _ _ _ rest _ hh => exact ⟨rest, hh⟩
  | cons u ts ih =>
    cases h with
    | next _ _ hr =>
      obtain ⟨rest, hh⟩ := ih hr
      refine ⟨rest, ?_⟩
      cases ts with
      | nil => exact hh
      | cons v ts =>
        rw [List.getLast?_cons_cons]
        rw [List.getLast?_eq_some_getLast (List.cons_ne_nil v ts)] at hh ⊢
        exact hh

/-- The lexemes from some number on are read from what the cursor stands before. -/
theorem reads_cursorAfter (hk : k ≤ (tokens source).length) :
    Reads (lexemeBefore source k) (cursorAfter source k).ahead ((lexemes source).drop k) := by
  have h := ((Lexer.ofString source).forward k).reads (Lexer.pending_forward rfl k)
  rwa [Lexer.toList_forward, List.map_drop, current_forward_ofString hk] at h

/-- What is read after a comment is read right after the lexeme before it, if its first
    lexeme does not miss its operand. -/
theorem Reads.without_comment (h : Reads (some u) text ts) (hu : u.kind = .inlineComment)
    (hp : ∀ p ∈ previous, ∀ t ∈ ts.head?, ¬ p.MissesOperand t) : Reads previous text ts := by
  cases h with
  | done hb => exact .done hb
  | next hb hh hr => exact .next hb (hh.without_comment hu fun p hpp => hp p hpp _ rfl) hr

/-! ### The result -/

/-- With a space in place of an inline comment, a source has the other lexemes that it had,
    if and only if the one after the comment does not miss an operand before it. -/
theorem lexemes_blanked_iff (source : String) {k : Nat} (hk : k < (tokens source).length)
    (hc : (tokens source)[k].kind = .inlineComment) {front back : List Char}
    (hs : source.toList = front ++ ((tokens source)[k].text.toList ++ back))
    (hf : tokenStart source k = Text.size front) :
    lexemes (String.ofList (front ++ ' ' :: back)) = (lexemes source).eraseIdx k ↔
      ∀ p ∈ lexemeBefore source k, ∀ t ∈ (lexemes source)[k + 1]?, ¬ p.MissesOperand t := by
  obtain ⟨hh, hahead⟩ := heads_cursorAfter hk
  obtain ⟨hfront, hback⟩ : front = (cursorAfter source k).behind.reverse ++ gapBefore source k ∧
      (tokens source)[k].text.toList ++ back =
        (tokens source)[k].text.toList ++ (cursorAfter source (k + 1)).ahead := by
    refine Text.append_inj_of_size ?_ (by rw [← hf, tokenStart_eq])
    rw [← hs, source_cursorAfter source k, hahead, List.append_assoc]
  rw [List.append_cancel_left_eq] at hback
  have herase : (lexemes source).eraseIdx k =
      (lexemes source).take k ++ (lexemes source).drop (k + 1) := List.eraseIdx_eq_take_drop_succ ..
  have hnext : (lexemes source)[k + 1]? = ((lexemes source).drop (k + 1)).head? :=
    List.head?_drop.symm
  rw [lexemes_eq_iff, String.toList_ofList, herase, hnext, hfront, List.append_assoc]
  refine ⟨fun hr p hp t ht => ?_, fun hp => ?_⟩
  · obtain ⟨ts, hts⟩ := List.head?_eq_some_iff.1 ht
    rw [hts] at hr
    obtain ⟨rest, hheads⟩ := hr.exists_heads
    have hlast : ((lexemes source).take k).getLast? = some p := hp
    rw [hlast] at hheads
    exact hheads.not_missesOperand
  · refine reads_replaced hk.le (fun t _ previous ht => ?_) ?_
    · -- The space comes right after the token before, or after the blanks that did.
      rw [hahead] at ht
      cases hgap : gapBefore source k with
      | cons c gap => exact ht.congr (by rw [hgap]; rfl)
      | nil =>
        obtain ⟨c, tail, htext, hblank, -⟩ := hh
        rw [hgap, htext] at ht
        exact ht.before_space (Lexeme.isLineBreak_eq_false hblank)
    · have hreads := reads_cursorAfter (k := k + 1) hk
      rw [lexemeBefore_succ hk, ← hback] at hreads
      replace hreads := hreads.without_comment hc hp
      rw [List.append_cons]
      refine hreads.blanks_append fun c hcm => ?_
      rcases List.mem_append.1 hcm with hcm | hcm
      · exact isBlank_of_mem_gapBefore c hcm
      · rw [List.mem_singleton.1 hcm]
        decide

/-- A comment between an operator and a sign. -/
theorem lexemes_blanked_iff_sign :
    2 < (tokens "x = /*c*/ -1").length ∧
    (∀ p ∈ lexemeBefore "x = /*c*/ -1" 2, ∀ t ∈ (lexemes "x = /*c*/ -1")[2 + 1]?,
      ¬ p.MissesOperand t) ∧
    lexemes (String.ofList ("x = ".toList ++ ' ' :: " -1".toList)) =
      (lexemes "x = /*c*/ -1").eraseIdx 2 := by
  have ht : tokens "x = /*c*/ -1" = [⟨⟨.symbol, "x"⟩, ⟨1, 1, 1⟩, none⟩,
      ⟨⟨.binaryOperator, "="⟩, ⟨1, 3, 1⟩, some ⟨.symbol, "x"⟩⟩,
      ⟨⟨.inlineComment, "/*c*/"⟩, ⟨1, 5, 5⟩, some ⟨.binaryOperator, "="⟩⟩,
      ⟨⟨.unaryPrefix, "-"⟩, ⟨1, 11, 1⟩, some ⟨.inlineComment, "/*c*/"⟩⟩,
      ⟨⟨.number, "1"⟩, ⟨1, 12, 1⟩, some ⟨.unaryPrefix, "-"⟩⟩] := by decide +kernel
  have hk : 2 < (tokens "x = /*c*/ -1").length := by rw [ht]; decide
  have hp : ∀ p ∈ lexemeBefore "x = /*c*/ -1" 2, ∀ t ∈ (lexemes "x = /*c*/ -1")[2 + 1]?,
      ¬ p.MissesOperand t := by
    rw [lexemeBefore, lexemes, ht]
    rintro _ ⟨⟩ _ ⟨⟩ (⟨hregex, -⟩ | ⟨-, ⟨-, hsign⟩ | ⟨-, hincrement⟩⟩)
    · exact absurd hregex (by decide)
    · exact absurd hsign (by decide)
    · exact absurd hincrement (by decide)
  have hcomment : (tokens "x = /*c*/ -1")[2].toLexeme = ⟨.inlineComment, "/*c*/"⟩ := by
    simp only [ht]
    rfl
  refine ⟨hk, hp, (lexemes_blanked_iff "x = /*c*/ -1" hk ?_ ?_ (by decide +kernel)).2 hp⟩
  · rw [hcomment]
  · rw [hcomment]
    decide +kernel

/-- A comment before a slash is not like a space: with a space in place of the comment,
    the slash divides. -/
theorem exists_lexemes_blanked_ne :
    ¬ ∀ (source : String) (k : Nat) (hk : k < (tokens source).length) (front back : List Char),
      (tokens source)[k].kind = .inlineComment → (tokens source)[k].toLexeme.isClosed →
      source.toList = front ++ ((tokens source)[k].text.toList ++ back) →
      tokenStart source k = Text.size front →
        lexemes (String.ofList (front ++ ' ' :: back)) = (lexemes source).eraseIdx k := by
  intro h
  have ht : tokens "a/**/ / b" = [⟨⟨.symbol, "a"⟩, ⟨1, 1, 1⟩, none⟩,
      ⟨⟨.inlineComment, "/**/"⟩, ⟨1, 2, 4⟩, some ⟨.symbol, "a"⟩⟩,
      ⟨⟨.regex, "/ b"⟩, ⟨1, 7, 3⟩, some ⟨.inlineComment, "/**/"⟩⟩] := by decide +kernel
  have hk : 1 < (tokens "a/**/ / b").length := by rw [ht]; decide
  have hcomment : (tokens "a/**/ / b")[1].toLexeme = ⟨.inlineComment, "/**/"⟩ := by
    simp only [ht]
    rfl
  have heq := h "a/**/ / b" 1 hk ['a'] " / b".toList
  rw [hcomment] at heq
  exact absurd (heq rfl rfl (by decide +kernel) (by decide +kernel)) (by decide +kernel)

end ScriptLayout
