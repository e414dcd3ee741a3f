import Mathlib.Data.Bool.AllAny
import ScriptLayout.Lexeme.Scan
import ScriptLayout.Proofs.Lexeme.Delimited
import ScriptLayout.Proofs.Lexeme.Number
import ScriptLayout.Text.Blank

/-!
# The extent of a lexeme

Which lexeme a text starts with, as a relation with one rule for each form of
lexeme (`Measured`, `measured_iff`). Two facts about it make lexemes independent
of the text around them:

* a lexeme stays within the text (`measure_le`);
* it depends on the text after it through the next character at most: a closed
  lexeme that a text starts with is also what the text starts with when
  something else follows, unless that begins with a character which the lexeme
  would take (`Measured.append`).
-/

namespace ScriptLayout.Lexeme

variable {text rest rest' : List Char} {previous : Option Lexeme} {c : Char}

/-! ### Operators -/

/-- Whether an operator with a character added starts a longer operator. -/
def continuesOperator (operator : List Char) (c : Char) : Bool :=
  longOperators.any fun long => (operator ++ [c]).isPrefixOf long

/-- A long operator at the start of a text lies in the part before a character
    that continues no operator. -/
theorem prefix_of_prefix_append {long : List Char} (hl : long ∈ longOperators)
    (hr : ∀ c ∈ rest.head?, continuesOperator text c = false) (h : long <+: text ++ rest) :
    long <+: text := by
  by_cases hlen : long.length ≤ text.length
  · exact List.prefix_of_prefix_length_le h (List.prefix_append ..) hlen
  · cases rest with
    | nil => simpa using h
    | cons c rest =>
      have hpre : text ++ [c] <+: long := by
        refine List.prefix_of_prefix_length_le ?_ h ?_
        · exact ⟨rest, List.append_cons text c rest |>.symm⟩
        · simp only [List.length_append, List.length_singleton]; omega
      have : continuesOperator text c := List.any_eq_true.2
        ⟨long, hl, List.isPrefixOf_iff_prefix.2 hpre⟩
      exact absurd this (by simp [hr c rfl])

theorem operatorExtent_le (h : text ≠ []) : operatorExtent text ≤ text.length := by
  rw [operatorExtent]
  split
  · next long hl =>
    have hp : long.isPrefixOf text := by simpa using List.find?_some hl
    exact (List.isPrefixOf_iff_prefix.1 hp).length_le
  · exact List.length_pos_iff.2 h

/-- An operator ends in the same place before every text that does not continue
    it. -/
theorem operatorExtent_append (h : operatorExtent (text ++ rest) = text.length)
    (hr : ∀ c ∈ rest'.head?, continuesOperator text c = false) :
    operatorExtent (text ++ rest') = text.length := by
  -- The new text offers no operator that the old one does not.
  have hnew : ∀ long ∈ longOperators, long.isPrefixOf (text ++ rest') →
      long.isPrefixOf (text ++ rest) := fun long hl hp => by
    rw [List.isPrefixOf_iff_prefix] at hp ⊢
    exact (prefix_of_prefix_append hl hr hp).trans (List.prefix_append ..)
  rw [operatorExtent] at h
  split at h
  · next long hl =>
    obtain ⟨hp, before, after, hsplit, hfirst⟩ := List.find?_eq_some_iff_append.1 hl
    obtain rfl : long = text := (List.prefix_of_prefix_length_le
      (List.isPrefixOf_iff_prefix.1 hp) (List.prefix_append ..) (Nat.le_of_eq h)).eq_of_length h
    have hfind : longOperators.find? (·.isPrefixOf (long ++ rest')) = some long := by
      refine List.find?_eq_some_iff_append.2 ⟨?_, before, after, hsplit, fun l hl => ?_⟩
      · exact List.isPrefixOf_iff_prefix.2 (List.prefix_append ..)
      · have hmem : l ∈ longOperators := hsplit ▸ List.mem_append_left _ hl
        rw [Bool.not_eq_true']
        exact Bool.eq_false_iff.2 fun hp => by simpa [hnew l hmem hp] using hfirst l hl
    rw [operatorExtent, hfind]
  · next hn =>
    have hfind : longOperators.find? (·.isPrefixOf (text ++ rest')) = none :=
      List.find?_eq_none.2 fun long hl hp => List.find?_eq_none.1 hn long hl (hnew long hl hp)
    rw [operatorExtent, hfind, h]

/-! ### All forms -/

/-- What lexeme a text starts with, and how many characters it takes. -/
inductive Measured (previous : Option Lexeme) : Char → List Char → Kind × Nat → Prop
  | word {c : Char} {rest : List Char} : isWordStart c →
      Measured previous c rest (.symbol, wordExtent (c :: rest))
  | lineComment {rest : List Char} :
      Measured previous '/' ('/' :: rest) (.lineComment, lineCommentExtent ('/' :: '/' :: rest))
  | inlineComment {rest : List Char} :
      Measured previous '/' ('*' :: rest) (.inlineComment, inlineCommentExtent rest)
  | string {c : Char} {rest : List Char} : isQuote c →
      Measured previous c rest (.string, stringExtent c rest)
  | number {c : Char} {rest : List Char} : c.isDigit ∨ c = '.' ∧ rest.head?.any Char.isDigit →
      Measured previous c rest (.number, numberExtent (c :: rest))
  | regex {rest : List Char} : regexAllowed previous → rest.head? ≠ some '/' →
      rest.head? ≠ some '*' → Measured previous '/' rest (.regex, regexExtent rest)
  | punctuation {c : Char} {rest : List Char} {kind : Kind} : punctuation? c = some kind →
      (c = '.' → rest.head?.any Char.isDigit = false) → Measured previous c rest (kind, 1)
  | operator {c : Char} {rest : List Char} : c ∈ operatorStarts →
      (c = '/' → regexAllowed previous = false ∧ rest.head? ≠ some '/' ∧ rest.head? ≠ some '*') →
      Measured previous c rest
        (operatorKind ((c :: rest).take (operatorExtent (c :: rest))) (kindOf previous),
          operatorExtent (c :: rest))
  | unknown {c : Char} {rest : List Char} : isWordStart c = false → isQuote c = false →
      c.isDigit = false → isOperatorStart c = false → Measured previous c rest (.unknown, 1)

theorem measured_measure (previous : Option Lexeme) (c : Char) (rest : List Char) :
    Measured previous c rest (measure previous c rest) := by
  rw [measure]
  split_ifs with hw hl hi hs hn hr ho
  · exact .word hw
  · obtain ⟨rfl, h⟩ := hl
    obtain ⟨rest, rfl⟩ : ∃ r, rest = '/' :: r := List.head?_eq_some_iff.1 h
    exact .lineComment
  · obtain ⟨rfl, h⟩ := hi
    obtain ⟨rest, rfl⟩ : ∃ r, rest = '*' :: r := List.head?_eq_some_iff.1 h
    exact .inlineComment
  · exact .string hs
  · exact .number hn
  · obtain ⟨rfl, hr⟩ := hr
    exact .regex hr (fun h => hl ⟨rfl, h⟩) fun h => hi ⟨rfl, h⟩
  · rw [measureOperator]
    split
    · next hp => exact .punctuation hp fun h => by simpa [h] using hn
    · next hp =>
      refine .operator (by simpa [isOperatorStart, hp] using ho) ?_
      rintro rfl
      exact ⟨by simpa using hr, fun h => hl ⟨rfl, h⟩, fun h => hi ⟨rfl, h⟩⟩
  · exact .unknown (by simpa using hw) (by simpa using hs) (by simpa using fun h => hn (.inl h))
      (by simpa using ho)

/-! Which forms exclude each other by their first character. -/

theorem eq_of_isQuote (h : isQuote c) : c = '"' ∨ c = '\x27' :=
  (Bool.or_eq_true_iff.1 h).imp beq_iff_eq.1 beq_iff_eq.1

theorem isWordStart_of_isQuote (h : isQuote c) : isWordStart c = false ∧ c ≠ '/' := by
  rcases eq_of_isQuote h with rfl | rfl <;> decide

theorem isWordStart_of_isDigit (h : c.isDigit) :
    isWordStart c = false ∧ isQuote c = false ∧ c ≠ '/' := by
  have hne : ∀ d : Char, d.isDigit = false → c ≠ d := fun d hd hc => by simp [← hc, h] at hd
  have halpha : c.isAlpha = false := by
    simp [isAlpha_eq, Char.isDigit, UInt32.le_iff_toNat_le] at h ⊢
    omega
  simp [isWordStart, isQuote, halpha, hne '_' rfl, hne '$' rfl, hne '"' rfl, hne '\x27' rfl,
    hne '/' rfl]

theorem isWordStart_of_punctuation? {kind : Kind} (h : punctuation? c = some kind) :
    isWordStart c = false ∧ isQuote c = false ∧ c.isDigit = false ∧ c ≠ '/' ∧
      isOperatorStart c = true := by
  unfold punctuation? at h
  split at h <;> first | decide | exact absurd h (by simp)

theorem isWordStart_of_mem_operatorStarts (h : c ∈ operatorStarts) :
    isWordStart c = false ∧ isQuote c = false ∧ c.isDigit = false ∧ c ≠ '.' ∧
      punctuation? c = none ∧ isOperatorStart c = true := by
  have hall : ∀ c ∈ operatorStarts, isWordStart c = false ∧ isQuote c = false ∧
      c.isDigit = false ∧ c ≠ '.' ∧ punctuation? c = none ∧ isOperatorStart c = true :=
    List.all_iff_forall_prop.1 (by decide)
  exact hall c h

theorem measured_iff {result : Kind × Nat} :
    Measured previous c rest result ↔ measure previous c rest = result := by
  refine ⟨fun h => ?_, fun h => h ▸ measured_measure previous c rest⟩
  cases h with
  | word h => simp [measure, h]
  | lineComment => simp [measure]; decide
  | inlineComment => simp [measure]; decide
  | string h => simp [measure, isWordStart_of_isQuote h, h]
  | number h =>
    have hc : isWordStart c = false ∧ isQuote c = false ∧ c ≠ '/' := by
      rcases h with h | ⟨rfl, -⟩
      · exact isWordStart_of_isDigit h
      · decide
    simp [measure, hc, h]
  | regex h hl hi =>
    have hc : isWordStart '/' = false ∧ isQuote '/' = false ∧ '/'.isDigit = false := by decide
    simp [measure, hc, h, hl, hi]
  | punctuation h hp =>
    obtain ⟨hw, hq, hd, hs, ho⟩ := isWordStart_of_punctuation? h
    have hp : ¬ (c = '.' ∧ rest.head?.any Char.isDigit = true) :=
      fun ⟨hc, h⟩ => by simp [hp hc] at h
    simp only [measure, measureOperator, h, hw, hq, hd, hs, ho, hp, false_and, or_self,
      Bool.false_eq_true, if_false, if_true]
  | operator h hs =>
    obtain ⟨hw, hq, hd, hp, hn, ho⟩ := isWordStart_of_mem_operatorStarts h
    have h1 : ¬ (c = '/' ∧ rest.head? = some '/') := fun ⟨hc, h⟩ => (hs hc).2.1 h
    have h2 : ¬ (c = '/' ∧ rest.head? = some '*') := fun ⟨hc, h⟩ => (hs hc).2.2 h
    have h3 : ¬ (c = '/' ∧ regexAllowed previous = true) := fun ⟨hc, h⟩ => by simp [hs hc] at h
    simp only [measure, measureOperator, hn, hw, hq, hd, hp, ho, h1, h2, h3, false_and, or_self,
      Bool.false_eq_true, if_false, if_true]
  | unknown hw hq hd ho =>
    have hs : c ≠ '/' := by rintro rfl; exact absurd ho (by decide)
    have hp : c ≠ '.' := by rintro rfl; exact absurd ho (by decide)
    simp [measure, hw, hq, hd, ho, hs, hp]

/-- There is one lexeme only that a text starts with. -/
theorem Measured.unique {result result' : Kind × Nat} (h : Measured previous c rest result)
    (h' : Measured previous c rest result') : result = result' :=
  (measured_iff.1 h).symm.trans (measured_iff.1 h')

theorem measure_le (previous : Option Lexeme) (c : Char) (rest : List Char) :
    (measure previous c rest).2 ≤ rest.length + 1 := by
  have h := measured_measure previous c rest
  generalize measure previous c rest = result at h
  cases h with
  | word => exact (List.takeWhile_prefix _).length_le
  | lineComment => exact (List.takeWhile_prefix _).length_le
  | inlineComment => exact inlineCommentExtent_le _
  | string => exact (Nat.add_le_add_left (closingExtent_le _ _) 1).trans_eq (Nat.add_comm ..)
  | number => exact numberExtent_le _
  | regex => exact (Nat.add_le_add_left (regexTail_le _ _) 1).trans_eq (Nat.add_comm ..)
  | punctuation => exact Nat.le_add_left _ _
  | operator => exact operatorExtent_le (List.cons_ne_nil _ _)
  | unknown => exact Nat.le_add_left _ _

/-! ### How lexemes begin -/

theorem operatorKind_eq (operator : List Char) (previous : Kind) :
    operatorKind operator previous = .binaryOperator ∨
      operatorKind operator previous = .unaryPrefix ∨
      operatorKind operator previous = .unarySuffix := by
  unfold operatorKind
  split <;> first | simp | (split <;> simp)

theorem isWordStart_of_isOperatorStart (h : isOperatorStart c) :
    isWordStart c = false ∧ isQuote c = false ∧ c.isDigit = false := by
  rcases Bool.or_eq_true_iff.1 h with hp | ho
  · obtain ⟨kind, hp⟩ := Option.isSome_iff_exists.1 hp
    have := isWordStart_of_punctuation? hp
    exact ⟨this.1, this.2.1, this.2.2.1⟩
  · have := isWordStart_of_mem_operatorStarts (List.contains_iff_mem.1 ho)
    exact ⟨this.1, this.2.1, this.2.2.1⟩

/-- Whether a lexeme of a kind that is known may begin with this character. -/
def isLexemeStart (c : Char) : Bool :=
  isWordStart c || isQuote c || c.isDigit || isOperatorStart c

/-- How a lexeme of the given kind begins. -/
def StartsAs (previous : Option Lexeme) (c : Char) (rest : List Char) (kind : Kind) : Prop :=
  match kind with
  | .symbol => isWordStart c
  | .lineComment => c = '/' ∧ rest.head? = some '/'
  | .inlineComment => c = '/' ∧ rest.head? = some '*'
  | .string => isQuote c
  | .number => c.isDigit ∨ c = '.' ∧ rest.head?.any Char.isDigit
  | .regex => c = '/' ∧ regexAllowed previous ∧ rest.head? ≠ some '/' ∧ rest.head? ≠ some '*'
  | .unknown => isLexemeStart c = false
  | _ => isOperatorStart c

theorem Measured.startsAs {kind : Kind} {n : Nat} (h : Measured previous c rest (kind, n)) :
    StartsAs previous c rest kind := by
  cases h with
  | word hw => exact hw
  | lineComment => exact ⟨rfl, rfl⟩
  | inlineComment => exact ⟨rfl, rfl⟩
  | string hq => exact hq
  | number hn => exact hn
  | regex ha hl hi => exact ⟨rfl, ha, hl, hi⟩
  | punctuation hp =>
    have ho := (isWordStart_of_punctuation? hp).2.2.2.2
    unfold punctuation? at hp
    split at hp <;> simp only [reduceCtorEq, Option.some.injEq] at hp <;> subst hp <;> exact ho
  | operator ho =>
    have hs := (isWordStart_of_mem_operatorStarts ho).2.2.2.2.2
    rcases operatorKind_eq ((c :: rest).take (operatorExtent (c :: rest))) (kindOf previous) with
      hk | hk | hk <;> rw [hk] <;> exact hs
  | unknown hw hq hd ho => simp [StartsAs, isLexemeStart, hw, hq, hd, ho]

/-- No lexeme of a known kind begins with a character that may begin none. -/
theorem isLexemeStart_of_startsAs {kind : Kind} (h : StartsAs previous c rest kind)
    (hk : kind ≠ .unknown) : isLexemeStart c := by
  have hslash : isLexemeStart '/' = true := rfl
  have hperiod : isLexemeStart '.' = true := rfl
  cases kind with
  | unknown => exact absurd rfl hk
  | symbol | string => simp_all [StartsAs, isLexemeStart]
  | lineComment | inlineComment | regex => exact h.1 ▸ hslash
  | number =>
    rcases h with h | ⟨rfl, -⟩
    · simp [isLexemeStart, h]
    · exact hperiod
  | _ => exact Bool.or_eq_true_iff.2 (.inr h)

/-! ### Lexemes among other texts -/

/-- Whether a lexeme that has a terminator ends with it. -/
def closes : Kind → List Char → Bool
  | .string, quote :: body => quoteCloses quote body
  | .inlineComment, _ :: _ :: body => commentCloses body
  | .regex, _ :: body => regexCloses false body
  | .string, _ | .inlineComment, _ | .regex, _ => false
  | _, _ => true

/-- Whether a closed lexeme might go on into a character right after it. -/
def takes (kind : Kind) (text : List Char) (c : Char) : Bool :=
  match kind with
  | .symbol => isWordPart c
  | .number => isWordPart c || isSign c || c == '.' && takesPoint text
  | .regex => Text.isAlphabetic c
  | .dot => c.isDigit
  | .binaryOperator | .unaryPrefix | .unarySuffix =>
    continuesOperator text c || text == ['/'] && (c == '/' || c == '*')
  | .lineComment => !isLineBreak c
  | _ => false

/-- The kinds of the lexemes that are neither punctuation nor operators. -/
def formKinds : List Kind :=
  [.symbol, .lineComment, .inlineComment, .string, .number, .regex, .unknown]

theorem notMem_formKinds_of_punctuation? {kind : Kind} (h : punctuation? c = some kind) :
    kind ∉ formKinds := by
  unfold punctuation? at h
  split at h <;> simp only [reduceCtorEq, Option.some.injEq] at h <;> subst h <;> decide

theorem operatorKind_notMem_formKinds (operator : List Char) (previous : Kind) :
    operatorKind operator previous ∉ formKinds := by
  rcases operatorKind_eq operator previous with h | h | h <;> rw [h] <;> decide

/-- What an operator does not take continues no operator and begins no comment. -/
theorem continuesOperator_of_takes {kind : Kind}
    (hk : kind = .binaryOperator ∨ kind = .unaryPrefix ∨ kind = .unarySuffix)
    (h : takes kind text c = false) :
    continuesOperator text c = false ∧ (text = ['/'] → c ≠ '/' ∧ c ≠ '*') := by
  rcases hk with rfl | rfl | rfl <;> simpa [takes] using h

section Append

variable {tail : List Char}

/-- A number before another text. What makes a point the beginning of a number
    is its digit, which is part of the number. -/
theorem measured_number_append (h : c.isDigit ∨ c = '.' ∧ (tail ++ rest).head?.any Char.isDigit)
    (hk : numberExtent (c :: (tail ++ rest)) = tail.length + 1)
    (hr : ∀ d ∈ rest'.head?, takes .number (c :: tail) d = false) :
    Measured previous c (tail ++ rest') (.number, tail.length + 1) := by
  have hext : numberExtent (c :: (tail ++ rest')) = tail.length + 1 := by
    refine @numberExtent_append (c :: tail) rest rest' (List.cons_ne_nil c tail) hk fun d hd => ?_
    have htake := hr d hd
    simp only [takes, Bool.or_eq_false_iff, Bool.and_eq_false_imp, beq_iff_eq] at htake
    exact ⟨htake.1.1, htake.1.2, htake.2⟩
  refine hext ▸ .number (h.imp_right fun h => ⟨h.1, ?_⟩)
  obtain ⟨rfl, hd⟩ := h
  cases tail with
  | nil => exact absurd hk (Nat.ne_of_gt (one_lt_numberExtent hd))
  | cons e tail => exact hd

/-- A regular expression before another text. -/
theorem measured_regex_append (ha : regexAllowed previous) (hl : (tail ++ rest).head? ≠ some '/')
    (hi : (tail ++ rest).head? ≠ some '*') (hk : regexExtent (tail ++ rest) = tail.length + 1)
    (hc : regexCloses false tail) (hr : ∀ d ∈ rest'.head?, Text.isAlphabetic d = false) :
    Measured previous '/' (tail ++ rest') (.regex, tail.length + 1) := by
  cases tail with
  | nil => exact absurd hc Bool.false_ne_true
  | cons e tail =>
    have htail : regexTail false (e :: tail ++ rest) = tail.length + 1 := by
      rw [regexExtent] at hk
      exact Nat.add_left_cancel (hk.trans (Nat.add_comm ..))
    have hext : regexExtent (e :: tail ++ rest') = tail.length + 1 + 1 := by
      rw [regexExtent, regexTail_append hc htail, Text.takeWhile_eq_nil hr, Nat.add_comm]
      rfl
    exact hext ▸ .regex ha hl hi

/-- An operator before another text. A slash alone must not become a comment. -/
theorem measured_operator_append (ho : c ∈ operatorStarts)
    (hs : c = '/' → regexAllowed previous = false ∧
      (tail ++ rest).head? ≠ some '/' ∧ (tail ++ rest).head? ≠ some '*')
    (hk : operatorExtent (c :: (tail ++ rest)) = tail.length + 1)
    (hr : ∀ d ∈ rest'.head?, continuesOperator (c :: tail) d = false ∧
      (c :: tail = ['/'] → d ≠ '/' ∧ d ≠ '*')) :
    Measured previous c (tail ++ rest')
      (operatorKind (c :: tail) (kindOf previous), tail.length + 1) := by
  have hext : operatorExtent (c :: (tail ++ rest')) = tail.length + 1 :=
    @operatorExtent_append (c :: tail) rest rest' hk fun d hd => (hr d hd).1
  have htake : (c :: (tail ++ rest')).take (operatorExtent (c :: (tail ++ rest'))) = c :: tail := by
    rw [hext]
    exact @List.take_left _ (c :: tail) rest'
  rw [← htake, ← hext]
  refine .operator ho fun h => ⟨(hs h).1, ?_⟩
  cases tail with
  | nil =>
    subst h
    exact ⟨fun h => ((hr _ h).2 rfl).1 rfl, fun h => ((hr _ h).2 rfl).2 rfl⟩
  | cons e tail => exact (hs h).2

/-- A closed lexeme that a text starts with is also what the text starts with
    when something else follows that begins with no character it takes. -/
theorem Measured.append {kind : Kind}
    (h : Measured previous c (tail ++ rest) (kind, tail.length + 1)) (hc : closes kind (c :: tail))
    (hr : ∀ d ∈ rest'.head?, takes kind (c :: tail) d = false) :
    Measured previous c (tail ++ rest') (kind, tail.length + 1) := by
  -- The rules speak of the whole text and of their own extent, so both get a name.
  obtain ⟨follow, hs⟩ : ∃ follow, follow = tail ++ rest := ⟨_, rfl⟩
  obtain ⟨result, hresult⟩ : ∃ result, result = (kind, tail.length + 1) := ⟨_, rfl⟩
  rw [← hs, ← hresult] at h
  cases h with
  | word hw =>
    obtain ⟨rfl, hk⟩ := Prod.mk.inj hresult
    subst hs
    have hext : wordExtent (c :: (tail ++ rest')) = tail.length + 1 :=
      @Text.length_takeWhile_append (c :: tail) rest rest' _ hk hr
    exact hext ▸ .word hw
  | lineComment =>
    obtain ⟨rfl, hk⟩ := Prod.mk.inj hresult
    cases tail with
    | nil => simp [lineCommentExtent, isLineBreak] at hk
    | cons d tail =>
      obtain ⟨rfl, rfl⟩ := List.cons.inj hs
      have hext : lineCommentExtent ('/' :: '/' :: (tail ++ rest')) = tail.length + 1 + 1 :=
        @Text.length_takeWhile_append ('/' :: '/' :: tail) rest rest' _ hk hr
      exact hext ▸ .lineComment
  | inlineComment =>
    obtain ⟨rfl, hk⟩ := Prod.mk.inj hresult
    cases tail with
    | nil => exact absurd hc Bool.false_ne_true
    | cons d tail =>
      obtain ⟨rfl, rfl⟩ := List.cons.inj hs
      have hext : inlineCommentExtent (tail ++ rest') = tail.length + 1 + 1 :=
        (inlineCommentExtent_append hc).trans hk
      exact hext ▸ .inlineComment
  | string hq =>
    obtain ⟨rfl, hk⟩ := Prod.mk.inj hresult
    subst hs
    have hext : stringExtent c (tail ++ rest') = tail.length + 1 := by
      rw [stringExtent, closingExtent_append hc] at hk ⊢
      exact hk
    exact hext ▸ .string hq
  | number hn =>
    obtain ⟨rfl, hk⟩ := Prod.mk.inj hresult
    subst hs
    exact measured_number_append hn hk hr
  | regex ha hl hi =>
    obtain ⟨rfl, hk⟩ := Prod.mk.inj hresult
    subst hs
    exact measured_regex_append ha hl hi hk hc hr
  | @punctuation _ _ k hp hd =>
    obtain ⟨rfl, hk⟩ := Prod.mk.inj hresult
    obtain rfl : tail = [] := List.eq_nil_of_length_eq_zero (Nat.succ.inj hk).symm
    refine .punctuation hp fun h => ?_
    obtain rfl : k = .dot := by simpa [h, punctuation?] using hp.symm
    rw [List.nil_append, Option.any_eq_false]
    intro d hd
    simpa [takes] using hr d hd
  | operator ho hslash =>
    obtain ⟨hkind, hk⟩ := Prod.mk.inj hresult
    subst hs
    have htake : (c :: (tail ++ rest)).take (tail.length + 1) = c :: tail :=
      @List.take_left _ (c :: tail) rest
    rw [hk, htake] at hkind
    subst hkind
    exact measured_operator_append ho hslash hk fun d hd =>
      continuesOperator_of_takes (operatorKind_eq ..) (hr d hd)
  | unknown hw hq hd ho =>
    obtain ⟨rfl, hk⟩ := Prod.mk.inj hresult
    obtain rfl : tail = [] := List.eq_nil_of_length_eq_zero (Nat.succ.inj hk).symm
    exact .unknown hw hq hd ho

end Append

end ScriptLayout.Lexeme
