import ScriptLayout.Proofs.Lexeme.Fusion
import ScriptLayout.Proofs.Lexeme.Unclosed

/-!
# The character after a lexeme

Where a lexeme ends is settled by the character after it. A text starts with the
same lexeme whatever it goes on with, as long as that begins with the same
character (`Lexeme.Heads.congr`). It also does where blanks come next, but for
lexemes that blanks do not end: a line comment and a regular expression that is
not closed end with their line, and a string and an inline comment that are not
closed with the text (`Lexeme.Heads.before_blank`).
-/

namespace ScriptLayout

variable {text rest rest' : List Char} {c : Char}

/-! ### Runs and ranges of characters -/

namespace Text

variable {p : Char → Bool}

/-- What holds of all characters listed by some ranges holds of those they contain. -/
theorem Ranges.of_contains {ranges : Ranges}
    (h : ranges.all fun range =>
      (List.range (range.2 - range.1 + 1)).all fun i => p (Char.ofNat (range.1 + i)))
    (hc : ranges.contains c) : p c := by
  obtain ⟨range, hr, hle, hge⟩ := contains_iff.1 hc
  have hmem : c.toNat - range.1 ∈ List.range (range.2 - range.1 + 1) :=
    List.mem_range.2 (by omega)
  have hp := List.all_eq_true.1 (List.all_eq_true.1 h range hr) _ hmem
  rwa [Nat.add_sub_cancel' hle, Char.ofNat_toNat] at hp

/-- A run ends before a character that does not continue it. -/
theorem of_length_takeWhile (h : ((text ++ rest).takeWhile p).length = text.length) :
    ∀ c ∈ rest.head?, p c = false := by
  rw [List.takeWhile_append_of_pos (all_of_length_takeWhile h), List.length_append,
    Nat.add_eq_left, List.length_eq_zero_iff] at h
  intro c hc
  obtain ⟨rest, rfl⟩ := List.head?_eq_some_iff.1 hc
  by_contra hp
  rw [List.takeWhile_cons, if_pos (by simpa using hp)] at h
  exact List.cons_ne_nil _ _ h

/-- A run ends in the same place where the same character comes next. -/
theorem length_takeWhile_congr (h : ((text ++ rest).takeWhile p).length = text.length)
    (hr : rest'.head? = rest.head?) : ((text ++ rest').takeWhile p).length = text.length :=
  length_takeWhile_append h (hr ▸ of_length_takeWhile h)

end Text

namespace Lexeme

/-! ### Numbers -/

theorem decimalExtent_eq_zero_congr {point exponent : Bool}
    (h : decimalExtent point exponent rest = 0) (hr : rest'.head? = rest.head?) :
    decimalExtent point exponent rest' = 0 := by
  cases rest' with
  | nil => rfl
  | cons c rest' =>
    obtain ⟨rest, rfl⟩ := List.head?_eq_some_iff.1 hr.symm
    rw [decimalExtent.eq_def] at h ⊢
    dsimp only at h ⊢
    split_ifs at h ⊢ with hd hp he
    · omega
    · omega
    · split at h
      · exact absurd h Nat.one_ne_zero
      · split at h <;> omega
    · rfl

/-- A decimal number ends in the same place where the same character comes next. -/
theorem decimalExtent_congr {point exponent : Bool}
    (h : decimalExtent point exponent (text ++ rest) = text.length)
    (hr : rest'.head? = rest.head?) :
    decimalExtent point exponent (text ++ rest') = text.length := by
  fun_induction decimalExtent point exponent text with
  | case1 => exact decimalExtent_eq_zero_congr h hr
  | case2 point exponent c text hd ih =>
    rw [List.cons_append, decimalExtent_digit hd, List.length_cons] at h ⊢
    rw [ih (by omega), Nat.add_comm]
  | case3 point exponent c text _ hp ih =>
    obtain ⟨rfl, rfl⟩ := hp
    rw [List.cons_append, decimalExtent_period, List.length_cons] at h ⊢
    rw [ih (by omega), Nat.add_comm]
  | case4 point exponent c _ _ he =>
    obtain ⟨hc, rfl⟩ := he
    -- A sign would have been taken along.
    have hs : ∀ d ∈ rest.head?, isSign d = false := by
      intro d hd
      obtain ⟨follow, rfl⟩ := List.head?_eq_some_iff.1 hd
      by_contra hsign
      rw [List.singleton_append, decimalExtent_mark_sign hc (by simpa using hsign),
        List.length_singleton] at h
      omega
    rw [List.singleton_append, decimalExtent_mark hc point hs, List.length_singleton] at h
    rw [List.singleton_append, decimalExtent_mark hc point (hr ▸ hs),
      decimalExtent_eq_zero_congr (by omega) hr, List.length_singleton]
  | case5 point exponent c _ _ he d text hd ih =>
    obtain ⟨hc, rfl⟩ := he
    rw [List.cons_append, List.cons_append, decimalExtent_mark_sign hc hd, List.length_cons,
      List.length_cons] at h ⊢
    rw [ih (by omega)]
    omega
  | case6 point exponent c _ _ he d text hd ih =>
    obtain ⟨hc, rfl⟩ := he
    have hs (rest : List Char) : ∀ e ∈ (d :: text ++ rest).head?, isSign e = false := by
      simpa using hd
    rw [List.cons_append, decimalExtent_mark hc point (hs _), List.length_cons] at h ⊢
    rw [ih (by omega), Nat.add_comm]
  | case7 point exponent c text hd hp he =>
    rw [List.cons_append, decimalExtent.eq_def] at h
    simp [hd, hp, he] at h

theorem hasRadix_congr (hpos : text ≠ []) (hr : rest'.head? = rest.head?) :
    hasRadix (text ++ rest') = hasRadix (text ++ rest) := by
  match text with
  | [c] => cases rest <;> cases rest' <;> simp_all [hasRadix]
  | _ :: _ :: _ => rfl

/-- A number ends in the same place where the same character comes next. -/
theorem numberExtent_congr (hpos : text ≠ []) (h : numberExtent (text ++ rest) = text.length)
    (hr : rest'.head? = rest.head?) : numberExtent (text ++ rest') = text.length := by
  by_cases hradix : hasRadix (text ++ rest)
  · match text with
    | c :: d :: text =>
      simp only [List.cons_append, hasRadix, Bool.and_eq_true, beq_iff_eq, Bool.or_eq_true]
        at hradix
      obtain ⟨rfl, hd⟩ := hradix
      rw [List.cons_append, List.cons_append] at h ⊢
      by_cases hx : d = 'x' ∨ d = 'X'
      · rw [numberExtent_hex hx, List.length_cons, List.length_cons, Nat.add_comm 2] at h ⊢
        rw [Text.length_takeWhile_congr (Nat.add_right_cancel h) hr]
      · rw [numberExtent_octal (hd.resolve_left hx)] at h ⊢
        exact @Text.length_takeWhile_congr ('0' :: d :: text) rest rest' _ h hr
    | [c] =>
      cases rest with
      | nil => exact absurd hradix Bool.false_ne_true
      | cons d rest =>
        obtain ⟨rest', rfl⟩ := List.head?_eq_some_iff.1 hr
        simp only [List.singleton_append, hasRadix, Bool.and_eq_true, beq_iff_eq,
          Bool.or_eq_true] at hradix
        obtain ⟨rfl, hd⟩ := hradix
        rw [List.singleton_append] at h ⊢
        by_cases hx : d = 'x' ∨ d = 'X'
        · rw [numberExtent_hex hx, List.length_singleton] at h
          omega
        · rw [numberExtent_octal (hd.resolve_left hx)] at h ⊢
          exact @Text.length_takeWhile_congr ['0'] (d :: rest) (d :: rest') _ h rfl
  · have hradix : hasRadix (text ++ rest) = false := by simpa using hradix
    rw [numberExtent_decimal hradix] at h
    rw [numberExtent_decimal ((hasRadix_congr hpos hr).trans hradix)]
    exact decimalExtent_congr h hr

/-! ### Operators -/

/-- Of the operators that a text starts with, the longest is taken. -/
theorem length_le_operatorExtent {long : List Char} (hl : long ∈ longOperators)
    (h : long <+: text) : long.length ≤ operatorExtent text := by
  have horder : longOperators.Pairwise fun long later => long.isPrefixOf later = false := by
    decide
  rw [operatorExtent]
  split
  · next first hf =>
    obtain ⟨hp, before, after, hsplit, hfirst⟩ := List.find?_eq_some_iff_append.1 hf
    by_contra hlt
    rw [Nat.not_le] at hlt
    have hstarts : first <+: long :=
      List.prefix_of_prefix_length_le (List.isPrefixOf_iff_prefix.1 hp) h hlt.le
    rw [hsplit, List.mem_append, List.mem_cons] at hl
    rw [hsplit, List.pairwise_append, List.pairwise_cons] at horder
    rcases hl with hl | rfl | hl
    · simpa [List.isPrefixOf_iff_prefix.2 h] using hfirst long hl
    · exact lt_irrefl _ hlt
    · simpa [List.isPrefixOf_iff_prefix.2 hstarts] using horder.2.1.1 long hl
  · next hf =>
    exact absurd (List.isPrefixOf_iff_prefix.2 h) (List.find?_eq_none.1 hf long hl)

/-- What a long operator begins with is an operator too. -/
theorem mem_longOperators_of_prefix {long : List Char} (hl : long ∈ longOperators)
    (h : text <+: long) (hlen : 1 < text.length) : text ∈ longOperators := by
  have hall : ∀ long ∈ longOperators, ∀ n ≤ long.length, 1 < n → long.take n ∈ longOperators := by
    decide
  rw [List.prefix_iff_eq_take.1 h]
  exact hall long hl _ h.length_le hlen

/-- An operator ends before a character that does not continue it. -/
theorem continuesOperator_of_operatorExtent (hpos : text ≠ [])
    (h : operatorExtent (text ++ c :: rest) = text.length) : continuesOperator text c = false := by
  by_contra hc
  rw [Bool.not_eq_false] at hc
  obtain ⟨long, hl, hp⟩ := List.any_eq_true.1 hc
  have hlen : (text ++ [c]).length = text.length + 1 := List.length_append
  have hmem : text ++ [c] ∈ longOperators := by
    refine mem_longOperators_of_prefix hl (List.isPrefixOf_iff_prefix.1 hp) ?_
    have := List.length_pos_iff.2 hpos
    omega
  have hle := length_le_operatorExtent hmem ⟨rest, List.append_assoc text [c] rest⟩
  rw [List.singleton_append, h, hlen] at hle
  omega

/-! ### Closed lexemes -/

variable {previous : Option Lexeme} {tail : List Char} {kind : Kind}

theorem Measured.takes_eq_false {d : Char}
    (h : Measured previous d (tail ++ c :: rest) (kind, tail.length + 1))
    (hn : kind ≠ .number) (hr : kind ≠ .regex) : takes kind (d :: tail) c = false := by
  obtain ⟨follow, hs⟩ : ∃ follow, follow = tail ++ c :: rest := ⟨_, rfl⟩
  obtain ⟨result, hresult⟩ : ∃ result, result = (kind, tail.length + 1) := ⟨_, rfl⟩
  rw [← hs, ← hresult] at h
  cases h with
  | word =>
    obtain ⟨rfl, hk⟩ := Prod.mk.inj hresult
    rw [hs] at hk
    exact @Text.of_length_takeWhile (d :: tail) (c :: rest) _ hk c rfl
  | lineComment =>
    obtain ⟨rfl, hk⟩ := Prod.mk.inj hresult
    rw [hs] at hk
    exact @Text.of_length_takeWhile ('/' :: tail) (c :: rest) _ hk c rfl
  | number => exact absurd (Prod.mk.inj hresult).1.symm hn
  | regex => exact absurd (Prod.mk.inj hresult).1.symm hr
  | punctuation hp hd =>
    obtain ⟨rfl, hk⟩ := Prod.mk.inj hresult
    obtain rfl : tail = [] := List.eq_nil_of_length_eq_zero (Nat.succ.inj hk).symm
    unfold punctuation? at hp
    split at hp
    all_goals simp only [reduceCtorEq, Option.some.injEq] at hp
    all_goals subst hp
    all_goals first | rfl | exact (by simpa [hs] using hd rfl : c.isDigit = false)
  | operator ho hslash =>
    obtain ⟨hkind, hk⟩ := Prod.mk.inj hresult
    have hkinds := operatorKind_eq ((d :: follow).take (operatorExtent (d :: follow)))
      (kindOf previous)
    rw [hkind] at hkinds
    have hcont : continuesOperator (d :: tail) c = false :=
      continuesOperator_of_operatorExtent (List.cons_ne_nil d tail) (hs ▸ hk)
    have hcomment : ¬ (d :: tail = ['/'] ∧ (c = '/' ∨ c = '*')) := by
      rintro ⟨htext, hc⟩
      obtain ⟨rfl, rfl⟩ := List.cons.inj htext
      rw [hs, List.nil_append, List.head?_cons] at hslash
      rcases hc with rfl | rfl
      · exact (hslash rfl).2.1 rfl
      · exact (hslash rfl).2.2 rfl
    rcases hkinds with rfl | rfl | rfl <;> simpa [takes, hcont] using hcomment
  | inlineComment | string | unknown =>
    obtain ⟨rfl, -⟩ := Prod.mk.inj hresult
    rfl

/-- A closed lexeme takes nothing of what comes after it. Of a number this is not
    said, which may end before a letter or a sign that another number takes. -/
theorem Heads.takes_eq_false {t : Lexeme} (h : t.Heads previous (c :: rest)) (hc : t.isClosed)
    (hn : t.kind ≠ .number) : takes t.kind t.text.toList c = false := by
  by_cases hr : t.kind = .regex
  · rw [hr]
    exact h.not_isAlphabetic hr hc
  · obtain ⟨d, tail, ht, -, hm⟩ := h
    rw [ht]
    exact hm.takes_eq_false hn hr

/-- A number before a text that begins with the same character. -/
theorem Measured.number_congr {d : Char}
    (h : Measured previous d (tail ++ rest) (.number, tail.length + 1))
    (hr : rest'.head? = rest.head?) :
    Measured previous d (tail ++ rest') (.number, tail.length + 1) := by
  have hk : tail.length + 1 = numberExtent (d :: (tail ++ rest)) := h.fitsKind
  have hext : numberExtent (d :: (tail ++ rest')) = tail.length + 1 :=
    @numberExtent_congr (d :: tail) rest rest' (List.cons_ne_nil d tail) hk.symm hr
  have hstart : d.isDigit ∨ d = '.' ∧ (tail ++ rest).head?.any Char.isDigit := h.startsAs
  refine hext ▸ .number ?_
  rwa [List.head?_append, hr, ← List.head?_append]

/-! ### Lexemes that are not closed -/

/-- Punctuation and operators have no terminator. -/
theorem closes_of_notMem_formKinds (h : kind ∉ formKinds) (text : List Char) :
    closes kind text := by
  cases kind <;> first | rfl | exact absurd (by decide) h

/-- A string and an inline comment that are not closed end with the text. A regular
    expression that is not closed ends with its line, and before every line break. -/
theorem Measured.of_not_closes {d : Char}
    (h : Measured previous d (tail ++ rest) (kind, tail.length + 1))
    (hc : closes kind (d :: tail) = false) :
    (kind = .string ∨ kind = .inlineComment) ∧ rest = [] ∨
      kind = .regex ∧ (∀ c ∈ rest.head?, isLineBreak c) ∧
        ∀ rest' : List Char, (∀ c ∈ rest'.head?, isLineBreak c) →
          Measured previous d (tail ++ rest') (kind, tail.length + 1) := by
  obtain ⟨follow, hs⟩ : ∃ follow, follow = tail ++ rest := ⟨_, rfl⟩
  obtain ⟨result, hresult⟩ : ∃ result, result = (kind, tail.length + 1) := ⟨_, rfl⟩
  rw [← hs, ← hresult] at h
  cases h with
  | string =>
    obtain ⟨rfl, hk⟩ := Prod.mk.inj hresult
    rw [hs, stringExtent] at hk
    exact .inl ⟨.inl rfl, eq_nil_of_not_quoteCloses hc (by omega)⟩
  | inlineComment =>
    obtain ⟨rfl, hk⟩ := Prod.mk.inj hresult
    refine .inl ⟨.inr rfl, ?_⟩
    cases tail with
    | nil =>
      rw [inlineCommentExtent] at hk
      split at hk <;> simp only [List.length_nil] at hk <;> omega
    | cons d tail =>
      obtain ⟨rfl, rfl⟩ := List.cons.inj hs
      exact eq_nil_of_not_commentCloses hc hk
  | regex ha hl hi =>
    obtain ⟨rfl, hk⟩ := Prod.mk.inj hresult
    rw [hs, regexExtent] at hk
    have hk : regexTail false (tail ++ rest) = tail.length := by omega
    refine .inr ⟨rfl, (regexTail_append_iff hc hk).1 hk, fun rest' hr => ?_⟩
    have hext : regexExtent (tail ++ rest') = tail.length + 1 := by
      rw [regexExtent, (regexTail_append_iff hc hk).2 hr, Nat.add_comm]
    have hhead (c : Char) (hb : isLineBreak c = false) (h : follow.head? ≠ some c) :
        (tail ++ rest').head? ≠ some c := by
      cases tail with
      | nil => exact fun hc => by simpa [hb] using hr c hc
      | cons e tail => exact fun hc => h (hs ▸ hc)
    exact hext ▸ .regex ha (hhead '/' rfl hl) (hhead '*' rfl hi)
  | punctuation hp =>
    obtain ⟨rfl, -⟩ := Prod.mk.inj hresult
    simp [closes_of_notMem_formKinds (notMem_formKinds_of_punctuation? hp)] at hc
  | operator =>
    obtain ⟨rfl, -⟩ := Prod.mk.inj hresult
    simp [closes_of_notMem_formKinds (operatorKind_notMem_formKinds _ _)] at hc
  | _ =>
    obtain ⟨rfl, -⟩ := Prod.mk.inj hresult
    exact absurd hc (by simp [closes])

/-! ### All lexemes -/

variable {t : Lexeme}

/-- A lexeme is what a text starts with whatever comes after it, as long as that begins
    with the same character. -/
theorem Heads.congr (h : t.Heads previous rest) (hr : rest'.head? = rest.head?) :
    t.Heads previous rest' := by
  by_cases hc : t.isClosed
  · by_cases hn : t.kind = .number
    · obtain ⟨c, tail, ht, hb, hm⟩ := h
      rw [hn] at hm
      exact ⟨c, tail, ht, hb, hn ▸ hm.number_congr hr⟩
    · refine h.append hc ?_
      rw [hr]
      intro c hc'
      obtain ⟨rest, rfl⟩ := List.head?_eq_some_iff.1 hc'
      exact h.takes_eq_false hc hn
  · obtain ⟨c, tail, ht, hb, hm⟩ := h
    rw [isClosed, ht, Bool.not_eq_true] at hc
    rcases hm.of_not_closes hc with ⟨-, rfl⟩ | ⟨-, hl, happend⟩
    · obtain rfl : rest' = [] := List.head?_eq_none_iff.1 hr
      exact ⟨c, tail, ht, hb, hm⟩
    · exact ⟨c, tail, ht, hb, happend rest' (hr ▸ hl)⟩

/-- A string and an inline comment that are not closed are not followed by anything. -/
theorem Heads.eq_nil (h : t.Heads previous rest) (hk : t.kind = .string ∨ t.kind = .inlineComment)
    (hc : t.isClosed = false) : rest = [] := by
  obtain ⟨c, tail, ht, -, hm⟩ := h
  rw [isClosed, ht] at hc
  rcases hm.of_not_closes hc with ⟨-, hnil⟩ | ⟨hr, -⟩
  · exact hnil
  · rcases hk with hk | hk <;> exact absurd (hk.symm.trans hr) (by decide)

/-! ### Blanks -/

/-- A blank continues no word, no number, no operator and no flags. -/
theorem not_continues_of_isBlank (h : Text.isBlank c) : isWordPart c = false ∧ isSign c = false ∧
    c ≠ '.' ∧ Text.isAlphabetic c = false ∧ c ∉ operatorStarts := by
  have hall := Text.Ranges.of_contains (p := fun c => !isWordPart c && !isSign c && c != '.' &&
    !Text.isAlphabetic c && !operatorStarts.contains c) (by decide +kernel) h
  simpa [and_assoc] using hall

/-- Line comments alone take blanks. -/
theorem takes_of_isBlank (h : Text.isBlank c) (hl : kind ≠ .lineComment) (text : List Char) :
    takes kind text c = false := by
  obtain ⟨hword, hsign, hpoint, halpha, hstarts⟩ := not_continues_of_isBlank h
  cases kind with
  | symbol => exact hword
  | number => simp [takes, hword, hsign, hpoint]
  | regex => exact halpha
  | dot => exact (Bool.or_eq_false_iff.1 hword).2
  | binaryOperator => exact takes_operator_eq_false (.inl rfl) hstarts
  | unaryPrefix => exact takes_operator_eq_false (.inr (.inl rfl)) hstarts
  | unarySuffix => exact takes_operator_eq_false (.inr (.inr rfl)) hstarts
  | lineComment => exact absurd rfl hl
  | _ => rfl

/-- A lexeme before blanks. Some lexemes end with the line or with the text only. -/
theorem Heads.before_blank (h : t.Heads previous rest) (hb : ∀ c ∈ rest'.head?, Text.isBlank c)
    (hl : t.kind = .lineComment ∨ t.kind = .regex ∧ t.isClosed = false →
      ∀ c ∈ rest'.head?, isLineBreak c)
    (hs : t.kind = .string ∨ t.kind = .inlineComment → t.isClosed = false → rest' = []) :
    t.Heads previous rest' := by
  by_cases hc : t.isClosed
  · refine h.append hc fun c hc => ?_
    by_cases hline : t.kind = .lineComment
    · rw [hline]
      simpa [takes] using hl (.inl hline) c hc
    · exact takes_of_isBlank (hb c hc) hline _
  · rw [Bool.not_eq_true] at hc
    obtain ⟨c, tail, ht, hc', hm⟩ := h
    have hcloses : closes t.kind (c :: tail) = false := by rwa [isClosed, ht] at hc
    rcases hm.of_not_closes hcloses with ⟨hk, rfl⟩ | ⟨hr, -, happend⟩
    · obtain rfl : rest' = [] := hs hk hc
      exact ⟨c, tail, ht, hc', hm⟩
    · exact ⟨c, tail, ht, hc', happend rest' (hl (.inr ⟨hr, hc⟩))⟩

end Lexeme

end ScriptLayout
