import Mathlib.Data.List.Chain
import ScriptLayout.Proofs.Lexeme.Reading

/-!
# Lexemes that run together

Which neighbours cannot do without a gap. Of the pairs that a layout writes
without one (`Kind.touches`), those that the lexer then reads differently are
given by `Lexeme.fuses`: a regular expression and a letter, a number and a
point, a prefix and the operator that begins with what would prolong it.

  * `Lexeme.Heads.separates` — every other pair is kept apart by every gap that a
    layout leaves;
  * `Reads.not_fuses` — these pairs are not: no text in which two of them touch
    is read as the lexemes that it consists of.
-/

namespace ScriptLayout

variable {previous : Option Lexeme} {t t' : Lexeme} {ts : List Lexeme} {c : Char}
  {text rest rest' blanks : List Char}

/-- Whether a token of the second kind may follow one of the first on its line
    with no space between. -/
def Kind.touches (previous : Kind) : Kind → Bool
  | .closeBrace | .closeParen | .closeBracket => true
  | .semicolon | .comma | .colon | .dot | .unarySuffix | .unknown => true
  | .openBrace => [openParen, openBracket].contains previous
  | .openParen =>
    [symbol, openParen, unaryPrefix, closeBracket, closeParen, closeBrace].contains previous
  | .openBracket => [symbol, openParen, closeParen, closeBracket].contains previous
  | .symbol => [openParen, openBracket, unaryPrefix, dot].contains previous
  | .string | .number | .regex | .binaryOperator | .unaryPrefix =>
    [openParen, openBracket, unaryPrefix].contains previous
  | .questionMark | .lineComment | .inlineComment => false

namespace Lexeme

/-- Whether a prefix goes on into a character right after it. -/
def prolongs : (operator : List Char) → Char → Bool
  | ['+'], c => c == '+' || c == '='
  | ['-'], c => c == '-' || c == '='
  | ['!'], c | ['~'], c => c == '='
  | _, _ => false

/-- Whether a lexeme runs together with the one right after it. -/
def fuses (t t' : Lexeme) : Bool :=
  match t.kind, t'.kind with
  | .regex, .unknown => t'.text.toList.head?.any Text.isAlphabetic
  | .number, .dot => takesPoint t.text.toList
  | .unaryPrefix, .binaryOperator | .unaryPrefix, .unaryPrefix =>
    t'.text.toList.head?.any (prolongs t.text.toList)
  | _, _ => false

/-! ### The first character of a lexeme -/

/-- A character that a word would take begins a word or a number. -/
theorem Measured.isWordPart_eq_false {kind : Kind} {n : Nat}
    (h : Measured previous c rest (kind, n)) (hs : kind ≠ .symbol) (hn : kind ≠ .number) :
    isWordPart c = false := by
  cases h with
  | word => exact absurd rfl hs
  | number => exact absurd rfl hn
  | lineComment | inlineComment | regex => decide
  | string hq =>
    rcases eq_of_isQuote hq with rfl | rfl <;> decide
  | punctuation hp => simp [isWordPart, isWordStart_of_punctuation? hp]
  | operator ho => simp [isWordPart, isWordStart_of_mem_operatorStarts ho]
  | unknown hw _ hd => simp [isWordPart, hw, hd]

/-- A character that an operator would take begins an operator, or a comment or
    a regular expression. -/
theorem Measured.kind_of_mem_operatorStarts {kind : Kind} {n : Nat}
    (h : Measured previous c rest (kind, n)) (hc : c ∈ operatorStarts) :
    kind ∈ [.binaryOperator, .unaryPrefix, .unarySuffix] ∨
      c = '/' ∧ kind ∈ [.regex, .lineComment, .inlineComment] := by
  have ho := isWordStart_of_mem_operatorStarts hc
  cases h with
  | lineComment | inlineComment | regex => exact .inr ⟨rfl, by decide⟩
  | operator =>
    refine .inl ?_
    rcases operatorKind_eq _ _ with h | h | h <;> rw [h] <;> decide
  | word hw => simp [ho] at hw
  | string hq => simp [ho] at hq
  | number hn => simp [ho] at hn
  | punctuation hp => simp [ho] at hp
  | unknown _ _ _ hn => simp [ho] at hn

/-- Nothing but words and unknown characters begins with a letter. -/
theorem Measured.isAlphabetic_eq_false {kind : Kind} {n : Nat}
    (h : Measured previous c rest (kind, n)) (hk : kind ∉ [.symbol, .number, .unknown]) :
    Text.isAlphabetic c = false := by
  cases h with
  | word | number | unknown => exact absurd hk (by decide)
  | lineComment | inlineComment | regex => decide +kernel
  | string hq =>
    rcases eq_of_isQuote hq with rfl | rfl <;> decide +kernel
  | punctuation hp =>
    unfold punctuation? at hp
    split at hp <;> first | decide +kernel | exact absurd hp (by simp)
  | operator ho =>
    have hall : ∀ c ∈ operatorStarts, Text.isAlphabetic c = false :=
      List.all_iff_forall_prop.1 (by decide +kernel)
    exact hall c ho

/-- A digit begins a number. -/
theorem Measured.number_of_isDigit {kind : Kind} {n : Nat}
    (h : Measured previous c rest (kind, n)) (hd : c.isDigit) : kind = .number := by
  have hm := measured_iff.1 h
  simp only [measure, isWordStart_of_isDigit hd, hd, false_and, true_or, Bool.false_eq_true,
    if_false, if_true] at hm
  exact (Prod.mk.inj hm).1.symm

/-- A point begins a number, or is a token by itself. -/
theorem Measured.dot_or_number {kind : Kind} {n : Nat}
    (h : Measured previous '.' rest (kind, n)) : kind = .dot ∨ kind = .number := by
  have hm := measured_iff.1 h
  simp only [measure, measureOperator, punctuation?, show isWordStart '.' = false by decide,
    show isQuote '.' = false by decide, show isOperatorStart '.' = true by decide,
    show ('.' = '/') = False by decide, Bool.false_eq_true, if_false, if_true, false_and] at hm
  split at hm
  · exact .inr (Prod.mk.inj hm).1.symm
  · exact .inl (Prod.mk.inj hm).1.symm

/-- What it takes to be read as a lexeme of the given kind and extent, for the
    kinds that go on into what follows them. -/
def FitsKind (previous : Option Lexeme) (c : Char) (rest : List Char) (n : Nat)
    (kind : Kind) : Prop :=
  match kind with
  | .number => n = numberExtent (c :: rest)
  | .regex => n = regexExtent rest
  | .dot => c = '.'
  | .binaryOperator | .unaryPrefix | .unarySuffix =>
    n = operatorExtent (c :: rest) ∧ operatorKind ((c :: rest).take n) (kindOf previous) = kind
  | _ => True

theorem Measured.fitsKind {kind : Kind} {n : Nat} (h : Measured previous c rest (kind, n)) :
    FitsKind previous c rest n kind := by
  cases h with
  | number => exact (rfl : _ = _)
  | regex => exact (rfl : _ = _)
  | punctuation hp =>
    unfold punctuation? at hp
    split at hp <;> simp at hp <;> subst hp <;> trivial
  | operator =>
    obtain ⟨kind, hk⟩ : ∃ kind, operatorKind
      ((c :: rest).take (operatorExtent (c :: rest))) (kindOf previous) = kind := ⟨_, rfl⟩
    rw [hk]
    have hkinds : kind = .binaryOperator ∨ kind = .unaryPrefix ∨ kind = .unarySuffix :=
      hk ▸ operatorKind_eq ..
    rcases hkinds with h | h | h <;> subst h <;> exact ⟨rfl, hk⟩
  | _ => trivial

/-! ### The text of an operator -/

theorem Heads.operator_of_kind (h : t.Heads previous rest)
    (hk : t.kind = .binaryOperator ∨ t.kind = .unaryPrefix ∨ t.kind = .unarySuffix) :
    operatorKind t.text.toList (kindOf previous) = t.kind ∧
      operatorExtent (t.text.toList ++ rest) = t.text.toList.length := by
  obtain ⟨c, tail, ht, -, hm⟩ := h
  have hfits := hm.fitsKind
  have htake : (c :: (tail ++ rest)).take (tail.length + 1) = c :: tail :=
    @List.take_left _ (c :: tail) rest
  rw [ht]
  rcases hk with hk | hk | hk <;> rw [hk] at hfits ⊢ <;>
    exact ⟨htake ▸ hfits.2, hfits.1.symm⟩

/-- The operators that may stand before an operand. -/
theorem mem_of_operatorKind_unaryPrefix {kind : Kind} (h : operatorKind text kind = .unaryPrefix) :
    text ∈ [['~'], ['!'], ['+', '+'], ['-', '-'], ['+'], ['-']] := by
  unfold operatorKind at h
  split at h <;> first | exact absurd h (by decide) | simp

/-- The operators that may stand after an operand, and what they stand after. -/
theorem mem_of_operatorKind_unarySuffix {kind : Kind} (h : operatorKind text kind = .unarySuffix) :
    text ∈ [['+', '+'], ['-', '-']] ∧ kind ∈ [.symbol, .closeParen, .closeBracket] := by
  unfold operatorKind at h
  split at h <;> (try split at h) <;> first | exact absurd h (by decide) | simp

theorem mem_operatorStarts_of_continuesOperator (h : continuesOperator text c) :
    c ∈ operatorStarts := by
  obtain ⟨long, hl, hp⟩ := List.any_eq_true.1 h
  have hc : c ∈ long := (List.isPrefixOf_iff_prefix.1 hp).subset (by simp)
  have hstarts : ∀ long ∈ longOperators, long ⊆ operatorStarts := by decide
  exact hstarts long hl hc

theorem continuesOperator_eq_false (h : c ∉ operatorStarts) : continuesOperator text c = false :=
  Bool.eq_false_iff.2 fun hc => h (mem_operatorStarts_of_continuesOperator hc)

theorem signs_subset : ['+', '-', '='] ⊆ operatorStarts := by decide

theorem mem_of_prolongs (h : prolongs text c) : c ∈ ['+', '-', '='] := by
  unfold prolongs at h
  split at h <;> simp at h <;> (try rcases h with rfl | rfl) <;> simp [*]

theorem continuesOperator_unaryPrefix
    (h : text ∈ [['~'], ['!'], ['+', '+'], ['-', '-'], ['+'], ['-']]) :
    continuesOperator text c = prolongs text c := by
  by_cases hc : c ∈ operatorStarts
  · have hall : ∀ text ∈ [['~'], ['!'], ['+', '+'], ['-', '-'], ['+'], ['-']],
        operatorStarts.all fun c => continuesOperator text c = prolongs text c := by decide
    exact List.all_iff_forall_prop.1 (hall text h) c hc
  · have hprolongs : prolongs text c = false := Bool.eq_false_iff.2 fun h =>
      hc (signs_subset (mem_of_prolongs h))
    rw [continuesOperator_eq_false hc, hprolongs]

theorem continuesOperator_unarySuffix (h : text ∈ [['+', '+'], ['-', '-']]) :
    continuesOperator text c = false := by
  simp only [List.mem_cons, List.not_mem_nil, or_false] at h
  rw [continuesOperator_unaryPrefix (by rcases h with rfl | rfl <;> decide)]
  rcases h with rfl | rfl <;> rfl

/-! ### Pairs that are kept apart -/

/-- No lexeme takes a line break. -/
theorem takes_newline (kind : Kind) (text : List Char) : takes kind text '\n' = false := by
  cases kind with
  | binaryOperator | unaryPrefix | unarySuffix =>
    simp [takes, continuesOperator_eq_false (show '\n' ∉ operatorStarts by decide)]
  | regex => exact (by decide +kernel : Text.isAlphabetic '\n' = false)
  | _ => rfl

/-- Line comments alone take a space. -/
theorem takes_space {kind : Kind} (h : kind ≠ .lineComment) (text : List Char) :
    takes kind text ' ' = false := by
  cases kind with
  | binaryOperator | unaryPrefix | unarySuffix =>
    simp [takes, continuesOperator_eq_false (show ' ' ∉ operatorStarts by decide)]
  | lineComment => exact absurd rfl h
  | regex => exact (by decide +kernel : Text.isAlphabetic ' ' = false)
  | _ => rfl

/-- No operator takes what begins none. -/
theorem takes_operator_eq_false {kind : Kind}
    (hk : kind = .binaryOperator ∨ kind = .unaryPrefix ∨ kind = .unarySuffix)
    (h : c ∉ operatorStarts) : takes kind text c = false := by
  have hs : c ≠ '/' ∧ c ≠ '*' := by
    constructor <;> rintro rfl <;> exact h (by decide)
  rcases hk with rfl | rfl | rfl <;> simp [takes, continuesOperator_eq_false h, hs]

/-- A suffix stands after a word or a closing delimiter only. -/
theorem Measured.suffix_after {kind : Kind} {n : Nat} (h : Measured (some t) c rest (kind, n))
    (hk : kind = .unarySuffix) : t.kind ∈ [.symbol, .closeParen, .closeBracket] := by
  have hfits := h.fitsKind
  rw [hk] at hfits
  exact (mem_of_operatorKind_unarySuffix hfits.2).2

/-- A number takes nothing of a token that may touch it, but for a point. -/
theorem takes_of_number_touches {kind : Kind} {n : Nat} (h : Measured (some t) c rest (kind, n))
    (hk : t.kind = .number) (ht : Kind.number.touches kind)
    (hf : kind = .dot → takesPoint text = false) : takes .number text c = false := by
  have hsuffix := h.suffix_after
  rw [hk] at hsuffix
  have hword : isWordPart c = false := h.isWordPart_eq_false
    (fun h => by simp [h, Kind.touches] at ht) fun h => by simp [h, Kind.touches] at ht
  have hsign : isSign c = false := Bool.eq_false_iff.2 fun hs => by
    have hc : c ∈ ['+', '-', '='] := by
      have hsigns : c = '+' ∨ c = '-' := by simpa [isSign] using hs
      rcases hsigns with rfl | rfl <;> decide
    rcases h.kind_of_mem_operatorStarts (signs_subset hc) with ho | ⟨rfl, -⟩
    · cases kind <;> simp [Kind.touches] at ht ho hsuffix
    · exact absurd hc (by decide)
  have hpoint : c = '.' → takesPoint text = false := by
    rintro rfl
    rcases h.dot_or_number with rfl | rfl
    · exact hf rfl
    · simp [Kind.touches] at ht
  simpa [takes, hword, hsign] using hpoint

/-- A prefix is prolonged by no token that may touch it, but for an operator. -/
theorem prolongs_of_unaryPrefix_touches {kind : Kind} {n : Nat}
    (h : Measured (some t) c rest (kind, n)) (hk : t.kind = .unaryPrefix)
    (ht : Kind.unaryPrefix.touches kind)
    (hf : kind = .binaryOperator ∨ kind = .unaryPrefix → prolongs text c = false) :
    prolongs text c = false := Bool.eq_false_iff.2 fun hp => by
  have hsuffix := h.suffix_after
  rw [hk] at hsuffix
  have hc := mem_of_prolongs hp
  rcases h.kind_of_mem_operatorStarts (signs_subset hc) with ho | ⟨rfl, -⟩
  · cases kind <;> simp [Kind.touches] at ht ho hsuffix <;> simp [hp] at hf
  · exact absurd hc (by decide)

/-- A lexeme takes nothing of one that may touch it, unless they fuse. -/
theorem takes_of_touches (h : t.Heads previous rest) (h' : t'.Heads (some t) rest')
    (ht : t.kind.touches t'.kind) (hl : t.kind ≠ .lineComment) (hf : t.fuses t' = false) :
    ∀ c ∈ t'.text.toList.head?, takes t.kind t.text.toList c = false := by
  obtain ⟨c, tail, ht', -, hm⟩ := h'
  rw [ht', List.head?_cons]
  rintro _ ⟨⟩
  cases hk : t.kind with
  | symbol =>
    rw [hk] at ht
    exact hm.isWordPart_eq_false (fun h => by simp [h, Kind.touches] at ht)
      fun h => by simp [h, Kind.touches] at ht
  | number =>
    rw [hk] at ht
    exact takes_of_number_touches hm hk ht fun hd => by simpa [fuses, hk, hd] using hf
  | regex =>
    rw [hk] at ht
    show Text.isAlphabetic c = false
    by_cases hu : t'.kind = .unknown
    · simpa [fuses, hk, hu, ht'] using hf
    · refine hm.isAlphabetic_eq_false fun hmem => ?_
      cases hk' : t'.kind <;> simp [hk', Kind.touches] at ht hmem hu
  | dot =>
    rw [hk] at ht
    exact Bool.eq_false_iff.2 fun h => by simp [hm.number_of_isDigit h, Kind.touches] at ht
  | binaryOperator =>
    have hsuffix := hm.suffix_after
    rw [hk] at ht hsuffix
    refine takes_operator_eq_false (.inl rfl) fun hc => ?_
    rcases hm.kind_of_mem_operatorStarts hc with h | ⟨-, h⟩ <;>
      cases hk' : t'.kind <;> simp [hk', Kind.touches] at ht h hsuffix
  | unaryPrefix =>
    rw [hk] at ht
    obtain ⟨hkind, -⟩ := h.operator_of_kind (.inr (.inl hk))
    have htext := mem_of_operatorKind_unaryPrefix (hkind.trans hk)
    have hslash : t.text.toList ≠ ['/'] := fun h => absurd (h ▸ htext) (by decide)
    have hprolongs : prolongs t.text.toList c = false :=
      prolongs_of_unaryPrefix_touches hm hk ht fun ho => by
        rcases ho with ho | ho <;> simpa [fuses, hk, ho, ht'] using hf
    simp [takes, continuesOperator_unaryPrefix htext, hslash, hprolongs]
  | unarySuffix =>
    obtain ⟨hkind, -⟩ := h.operator_of_kind (.inr (.inr hk))
    obtain ⟨htext, -⟩ := mem_of_operatorKind_unarySuffix (hkind.trans hk)
    have hslash : t.text.toList ≠ ['/'] := fun h => absurd (h ▸ htext) (by decide)
    simp [takes, continuesOperator_unarySuffix htext, hslash]
  | lineComment => exact absurd hk hl
  | _ => rfl

/-- A blank gap keeps two lexemes apart if it begins as the gaps of a layout do,
    and an empty one does where the lexemes may touch and do not fuse. -/
theorem Heads.separates {between : List Char} (h : t.Heads previous rest)
    (h' : t'.Heads (some t) rest')
    (hb : ∀ c ∈ between, Text.isBlank c) (hs : ∀ c ∈ between.head?, c = ' ' ∨ c = '\n')
    (hl : t.kind = .lineComment → between.head? = some '\n')
    (ht : between = [] → t.kind.touches t'.kind) (hf : t.fuses t' = false) :
    t.Separates t' between := by
  refine ⟨hb, ?_⟩
  by_cases hline : t.kind = .lineComment
  · obtain ⟨between, rfl⟩ := List.head?_eq_some_iff.1 (hl hline)
    rintro _ ⟨⟩
    exact takes_newline ..
  · cases between with
    | nil => exact takes_of_touches h h' (ht rfl) hline hf
    | cons c between =>
      rintro _ ⟨⟩
      rcases hs c rfl with rfl | rfl
      · exact takes_space hline _
      · exact takes_newline ..

/-! ### Pairs that are not -/

/-- A prefix that goes on becomes an operator of two characters. -/
theorem mem_longOperators_of_prolongs (h : prolongs text c) :
    text.length = 1 ∧ text ++ [c] ∈ longOperators := by
  unfold prolongs at h
  split at h <;> simp at h <;> (try rcases h with rfl | rfl) <;> decide

theorem one_lt_operatorExtent {long : List Char} (hl : long ∈ longOperators)
    (h : long <+: text) : 1 < operatorExtent text := by
  have hall : ∀ long ∈ longOperators, 1 < long.length := by decide
  rw [operatorExtent]
  split
  · next long' hf => exact hall long' (List.mem_of_find?_eq_some hf)
  · next hf => exact absurd (List.isPrefixOf_iff_prefix.2 h) (List.find?_eq_none.1 hf long hl)

theorem Heads.not_prolongs (h : t.Heads previous (c :: rest)) (hk : t.kind = .unaryPrefix) :
    prolongs t.text.toList c = false := Bool.eq_false_iff.2 fun hp => by
  obtain ⟨-, hext⟩ := h.operator_of_kind (.inr (.inl hk))
  obtain ⟨hlen, hl⟩ := mem_longOperators_of_prolongs hp
  have hlt : 1 < operatorExtent (t.text.toList ++ c :: rest) :=
    one_lt_operatorExtent hl ⟨rest, by simp⟩
  omega

theorem Heads.not_takesPoint (h : t.Heads previous ('.' :: rest)) (hk : t.kind = .number) :
    takesPoint t.text.toList = false := Bool.eq_false_iff.2 fun hp => by
  obtain ⟨c, tail, ht, -, hm⟩ := h
  have hfits := hm.fitsKind
  rw [hk] at hfits
  rw [ht] at hp
  have hext : tail.length + 1 = numberExtent (c :: (tail ++ '.' :: rest)) := hfits
  have hlt : (c :: tail).length < numberExtent (c :: tail ++ '.' :: rest) :=
    lt_numberExtent_period (by simp) hext.symm hp
  exact absurd hext (Nat.ne_of_lt hlt)

theorem Heads.not_isAlphabetic (h : t.Heads previous (c :: rest)) (hk : t.kind = .regex)
    (hc : t.isClosed) : Text.isAlphabetic c = false := Bool.eq_false_iff.2 fun ha => by
  obtain ⟨d, tail, ht, -, hm⟩ := h
  have hfits := hm.fitsKind
  rw [hk] at hfits
  have hext : tail.length + 1 = 1 + regexTail false (tail ++ c :: rest) := hfits
  rw [isClosed, hk, ht] at hc
  have htail : regexTail false (tail ++ c :: rest) = tail.length := by omega
  have hrun : regexTail false (tail ++ c :: rest) =
      tail.length + ((c :: rest).takeWhile Text.isAlphabetic).length := regexTail_append hc htail
  rw [htail, List.takeWhile_cons, if_pos ha, List.length_cons] at hrun
  omega

/-- A lexeme is not what a text starts with where it goes on with a lexeme that
    it fuses with. -/
theorem Heads.not_fuses (h : t.Heads previous (t'.text.toList ++ rest)) (hc : t.isClosed)
    (h' : t'.Heads (some t) rest') : t.fuses t' = false := by
  refine Bool.eq_false_iff.2 fun hf => ?_
  obtain ⟨d, tail', ht', -, hm'⟩ := h'
  rw [ht', List.cons_append] at h
  rw [fuses] at hf
  split at hf
  · next hr _ => simp [ht', h.not_isAlphabetic hr hc] at hf
  · next hn hd =>
    have hpoint := hm'.fitsKind
    rw [hd] at hpoint
    obtain rfl : d = '.' := hpoint
    simp [h.not_takesPoint hn] at hf
  · next hu _ => simp [ht', h.not_prolongs hu] at hf
  · next hu _ => simp [ht', h.not_prolongs hu] at hf
  · exact Bool.false_ne_true hf

end Lexeme

/-- A text that is read as a lexeme and others goes on, after the lexeme, as the
    others are read. -/
theorem Reads.of_next (h : Reads previous (blanks ++ (t.text.toList ++ rest)) (t :: ts))
    (hb : ∀ c ∈ blanks, Text.isBlank c) : t.Heads previous rest ∧ Reads (some t) rest ts := by
  obtain ⟨whole, hw⟩ : ∃ whole, whole = blanks ++ (t.text.toList ++ rest) := ⟨_, rfl⟩
  rw [← hw] at h
  cases h with
  | next hb' hh hr =>
    have heq := congrArg (List.dropWhile Text.isBlank) hw
    rw [hh.dropWhile_eq hb, hh.dropWhile_eq hb'] at heq
    obtain rfl := List.append_cancel_left heq
    exact ⟨hh, hr⟩

/-- Lexemes that fuse when nothing is between them are not both read from a text
    where nothing is. -/
theorem Reads.not_fuses {before body after : List Char}
    (hi : Interleaved (fun t t' between =>
      (∀ c ∈ between, Text.isBlank c) ∧ (t.fuses t' → between = [])) ts body)
    (h : Reads previous (before ++ (body ++ after)) ts) (hb : ∀ c ∈ before, Text.isBlank c)
    (hc : ∀ t ∈ ts, t.isClosed) : ts.IsChain fun t t' => t.fuses t' = false := by
  induction hi generalizing previous before with
  | none => exact .nil
  | last t => exact .singleton t
  | @next t t' ts between rest hg hi ih =>
    rw [List.forall_mem_cons] at hc
    rw [List.append_assoc, List.append_assoc] at h
    obtain ⟨hh, hr⟩ := h.of_next hb
    refine .cons_cons (Bool.eq_false_iff.2 fun hf => ?_) (ih hr hg.1 hc.2)
    obtain ⟨follow, rfl⟩ := hi.exists_append
    rw [hg.2 hf, List.nil_append, List.append_assoc] at hh
    have hr : Reads (some t) (between ++ (t'.text.toList ++ (follow ++ after))) (t' :: ts) := by
      simpa using hr
    have h' : t'.Heads (some t) (follow ++ after) := (hr.of_next hg.1).1
    simp [hh.not_fuses hc.1 h'] at hf

end ScriptLayout
