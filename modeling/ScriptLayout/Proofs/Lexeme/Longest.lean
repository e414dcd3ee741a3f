import Mathlib.Data.List.Count
import ScriptLayout.Proofs.Lexeme.Boundary

/-!
# Longest beginnings

A word, a number and an operator are the longest beginning of a text that is one
(`Text.IsLongest`). What is one is said by itself, as a set of texts: the characters of a
word; the digits of a radix after its mark; the digits, points and exponents of a decimal
number, in any order, with at most one point and one exponent (`IsDecimal`); the list of
the operators.

The scans are greedy. They find the longest beginning because with a text, the beginnings of
it are in the set, too, so that a scan that has to stop has no way on
(`isLongest_decimalFrom`), and because of two operators the list has the longer one first
(`isLongest_operator`).
-/

namespace ScriptLayout

variable {text front : List Char}

/-! ### The longest beginning in a set of texts -/

namespace Text

/-- Of the beginnings of a text that have the property `p`, the longest one. -/
structure IsLongest (p : List Char → Prop) (text front : List Char) : Prop where
  /-- It is a beginning of the text. -/
  isPrefix : front <+: text
  /-- It has the property. -/
  holds : p front
  /-- No beginning with the property is longer. -/
  length_le : ∀ other, other <+: text → p other → other.length ≤ front.length

variable {p q : List Char → Prop}

/-- Nothing of a text may be the longest beginning. -/
theorem isLongest_nil (h : p []) (hp : ∀ other, other <+: text → p other → other = []) :
    IsLongest p text [] :=
  ⟨List.nil_prefix, h, fun other ho hpo => by rw [hp other ho hpo]⟩

/-- The longest beginning of a text, and what comes before the text. -/
theorem IsLongest.append_left (h : IsLongest q text front) (before : List Char)
    (hp : ∀ other, other <+: text → (p (before ++ other) ↔ q other)) :
    IsLongest p (before ++ text) (before ++ front) where
  isPrefix := (List.prefix_append_right_inj before).2 h.isPrefix
  holds := (hp front h.isPrefix).2 h.holds
  length_le other ho hpo := by
    rw [List.length_append]
    rcases List.prefix_or_prefix_of_prefix ho (List.prefix_append before text) with hb | ⟨r, rfl⟩
    · exact hb.length_le.trans (Nat.le_add_right ..)
    · rw [List.prefix_append_right_inj] at ho
      rw [List.length_append]
      exact Nat.add_le_add_left (h.length_le r ho ((hp r ho).1 hpo)) _

/-- The longest run of characters of a kind at the start of a text. -/
theorem isLongest_takeWhile (p : Char → Bool) (text : List Char) :
    IsLongest (fun run => ∀ c ∈ run, p c) text (text.takeWhile p) where
  isPrefix := List.takeWhile_prefix p
  holds _ hc := List.mem_takeWhile_imp hc
  length_le other ho hp := by
    obtain ⟨rest, rfl⟩ := ho
    rw [List.takeWhile_append_of_pos hp, List.length_append]
    exact Nat.le_add_right ..

end Text

namespace Lexeme

open Text (IsLongest)

/-! ### Numbers -/

/-- A zero, the letter X and hexadecimal digits. -/
def IsHexadecimal (word : List Char) : Prop :=
  ∃ x digits, word = '0' :: x :: digits ∧ (x = 'x' ∨ x = 'X') ∧ ∀ d ∈ digits, isHexDigit d

/-- Octal digits, of which there is at least one. -/
def IsOctal (word : List Char) : Prop :=
  word ≠ [] ∧ ∀ d ∈ word, isOctalDigit d

/-- Texts made of digits, points, and exponent marks that a sign may follow. -/
inductive DecimalItems : List Char → Prop
  | nil : DecimalItems []
  | digit {c : Char} {word : List Char} : c.isDigit → DecimalItems word → DecimalItems (c :: word)
  | point {word : List Char} : DecimalItems word → DecimalItems ('.' :: word)
  | mark {c : Char} {word : List Char} : isExponentMark c → DecimalItems word →
      DecimalItems (c :: word)
  | markSign {c s : Char} {word : List Char} : isExponentMark c → isSign s → DecimalItems word →
      DecimalItems (c :: s :: word)

/-- Such a text with at most one point and one exponent mark. -/
def IsDecimal (word : List Char) : Prop :=
  DecimalItems word ∧ word.count '.' ≤ 1 ∧ word.countP isExponentMark ≤ 1

/-- The form of the numbers at the start of a text: hexadecimal after a zero and the letter
    X, octal from a zero and another digit on, and decimal otherwise. -/
def IsNumber : (text word : List Char) → Prop
  | '0' :: c :: _ =>
    if c = 'x' ∨ c = 'X' then IsHexadecimal else if c.isDigit then IsOctal else IsDecimal
  | _ => IsDecimal

/-- How a decimal number may go on, when it had a point and an exponent already or not. -/
def IsDecimalFrom (point exponent : Bool) (word : List Char) : Prop :=
  DecimalItems word ∧ word.count '.' + point.toNat ≤ 1 ∧
    word.countP isExponentMark + exponent.toNat ≤ 1

section Decimal

variable {point exponent : Bool} {c d : Char} {word : List Char}

theorem isExponentMark_of_isDigit (h : c.isDigit) : isExponentMark c = false ∧ c ≠ '.' := by
  have hmark : isExponentMark c = false := Bool.eq_false_iff.2 fun hm => by
    simp [isDigit_of_isExponentMark hm] at h
  exact ⟨hmark, by rintro rfl; exact absurd h (by decide)⟩

theorem isDigit_of_isSign (h : isSign c) :
    c.isDigit = false ∧ c ≠ '.' ∧ isExponentMark c = false := by
  rcases Bool.or_eq_true_iff.1 h with h | h <;> obtain rfl := beq_iff_eq.1 h <;> decide

theorem decimalItems_digit_iff (hc : c.isDigit) : DecimalItems (c :: word) ↔ DecimalItems word := by
  refine ⟨fun h => ?_, .digit hc⟩
  cases h with
  | digit _ h => exact h
  | point => exact absurd hc (by decide)
  | mark hm => simp [isDigit_of_isExponentMark hm] at hc
  | markSign hm => simp [isDigit_of_isExponentMark hm] at hc

theorem decimalItems_point_iff : DecimalItems ('.' :: word) ↔ DecimalItems word := by
  refine ⟨fun h => ?_, .point⟩
  cases h with
  | digit hc => exact absurd hc (by decide)
  | point h => exact h
  | mark hm => exact absurd hm (by decide)
  | markSign hm => exact absurd hm (by decide)

theorem decimalItems_mark_iff (hc : isExponentMark c) (hs : ∀ s ∈ word.head?, isSign s = false) :
    DecimalItems (c :: word) ↔ DecimalItems word := by
  refine ⟨fun h => ?_, .mark hc⟩
  cases h with
  | digit hd => simp [isDigit_of_isExponentMark hc] at hd
  | point => exact absurd hc (by decide)
  | mark _ h => exact h
  | markSign _ hsign => simp [hs _ rfl] at hsign

/-- A sign after an exponent mark belongs to it. -/
theorem decimalItems_markSign_iff (hc : isExponentMark c) (hd : isSign d) :
    DecimalItems (c :: d :: word) ↔ DecimalItems word := by
  refine ⟨fun h => ?_, .markSign hc hd⟩
  obtain ⟨hdigit, hpoint, hmark⟩ := isDigit_of_isSign hd
  cases h with
  | digit h => simp [isDigit_of_isExponentMark hc] at h
  | point => exact absurd hc (by decide)
  | mark _ h =>
    cases h with
    | digit h => simp [hdigit] at h
    | point => exact absurd rfl hpoint
    | mark h => simp [hmark] at h
    | markSign h => simp [hmark] at h
  | markSign _ _ h => exact h

/-- Where a decimal number does not go on, no beginning of the text continues it. -/
theorem eq_nil_of_isDecimalFrom (hd : c.isDigit = false) (hp : ¬ (c = '.' ∧ point = false))
    (he : ¬ (isExponentMark c ∧ exponent = false)) (hword : word <+: c :: text)
    (h : IsDecimalFrom point exponent word) : word = [] := by
  cases word with
  | nil => rfl
  | cons b word =>
    obtain rfl : b = c := (List.cons_prefix_cons.1 hword).1
    obtain ⟨hitems, hpoint, hexponent⟩ := h
    cases hitems with
    | digit h => simp [hd] at h
    | point => cases point <;> simp at hp hpoint
    | mark h => cases exponent <;> simp [h] at he hexponent
    | markSign h => cases exponent <;> simp [h] at he hexponent

/-- An exponent mark that no sign follows, and what comes after it. -/
theorem isLongest_decimalFrom_mark (hc : isExponentMark c)
    (hs : ∀ s ∈ text.head?, isSign s = false)
    (h : IsLongest (IsDecimalFrom point true) text front) :
    IsLongest (IsDecimalFrom point false) (c :: text) (c :: front) := by
  refine h.append_left [c] fun other ho => ?_
  have hs' : ∀ s ∈ other.head?, isSign s = false := by
    obtain ⟨rest, rfl⟩ := ho
    exact fun s hmem => hs s (by rw [List.head?_append, hmem]; rfl)
  simp [IsDecimalFrom, decimalItems_mark_iff hc hs', hc, (isDigit_of_isExponentMark hc).2]

end Decimal

/-- A decimal number goes on as far as it can. -/
theorem isLongest_decimalFrom (point exponent : Bool) (text : List Char) :
    IsLongest (IsDecimalFrom point exponent) text
      (text.take (decimalExtent point exponent text)) := by
  have hnil (point exponent : Bool) : IsDecimalFrom point exponent [] := by
    cases point <;> cases exponent <;> simp [IsDecimalFrom, DecimalItems.nil]
  fun_induction decimalExtent point exponent text with
  | case1 => exact Text.isLongest_nil (hnil _ _) fun other ho _ => List.prefix_nil.1 ho
  | case2 point exponent c text hd ih =>
    rw [Nat.add_comm 1]
    refine ih.append_left [c] fun other _ => ?_
    obtain ⟨hmark, hpoint⟩ := isExponentMark_of_isDigit hd
    simp [IsDecimalFrom, decimalItems_digit_iff hd, hmark, hpoint]
  | case3 point exponent c text _ hp ih =>
    obtain ⟨rfl, rfl⟩ := hp
    rw [Nat.add_comm 1]
    refine ih.append_left ['.'] fun other _ => ?_
    simp [IsDecimalFrom, decimalItems_point_iff, isExponentMark]
  | case4 point exponent c _ _ he =>
    obtain ⟨hc, rfl⟩ := he
    exact isLongest_decimalFrom_mark hc (by simp)
      (Text.isLongest_nil (hnil _ _) fun other ho _ => List.prefix_nil.1 ho)
  | case5 point exponent c _ _ he d text hd ih =>
    obtain ⟨hc, rfl⟩ := he
    rw [Nat.add_comm 2]
    refine ih.append_left [c, d] fun other _ => ?_
    obtain ⟨-, hpoint, hmark⟩ := isDigit_of_isSign hd
    simp [IsDecimalFrom, decimalItems_markSign_iff hc hd, hmark, hpoint, hc,
      (isDigit_of_isExponentMark hc).2]
  | case6 point exponent c _ _ he d text hd ih =>
    obtain ⟨hc, rfl⟩ := he
    rw [Nat.add_comm 1]
    exact isLongest_decimalFrom_mark hc (by simpa using hd) ih
  | case7 point exponent c text hd hp he =>
    -- Nothing that a number is made of, or a second point or exponent: it ends here.
    exact Text.isLongest_nil (hnil _ _) fun other ho h =>
      eq_nil_of_isDecimalFrom (by simpa using hd) hp he ho h

/-- A number without a radix is decimal. -/
theorem isNumber_decimal (h : hasRadix text = false) : IsNumber text = IsDecimal := by
  unfold IsNumber
  split
  · next c rest =>
    simp only [hasRadix, beq_self_eq_true, Bool.true_and, Bool.or_eq_false_iff,
      beq_eq_false_iff_ne] at h
    simp [h]
  · rfl

/-- A number is the longest beginning of a text that has the form of its numbers. -/
theorem isLongest_number (text : List Char) :
    IsLongest (IsNumber text) text (text.take (numberExtent text)) := by
  by_cases hradix : hasRadix text
  · match text with
    | z :: c :: rest =>
      simp only [hasRadix, Bool.and_eq_true, beq_iff_eq, Bool.or_eq_true] at hradix
      obtain ⟨rfl, hc⟩ := hradix
      by_cases hx : c = 'x' ∨ c = 'X'
      · have hdigits := Text.isLongest_takeWhile isHexDigit rest
        rw [numberExtent_hex hx, Nat.add_comm 2, List.take_succ_cons, List.take_succ_cons,
          ← List.prefix_iff_eq_take.1 (List.takeWhile_prefix _)]
        refine hdigits.append_left ['0', c] fun other _ => ?_
        simp [IsNumber, IsHexadecimal, hx]
      · have hd : c.isDigit := hc.resolve_left hx
        have hrun := Text.isLongest_takeWhile isOctalDigit ('0' :: c :: rest)
        have hform : IsNumber ('0' :: c :: rest) = IsOctal := by
          simp only [IsNumber, hx, hd, if_false, if_true]
        rw [numberExtent_octal hd, ← List.prefix_iff_eq_take.1 (List.takeWhile_prefix _), hform]
        refine ⟨hrun.isPrefix, ⟨?_, hrun.holds⟩, fun other ho h => hrun.length_le other ho h.2⟩
        simp [isOctalDigit]
  · have hradix : hasRadix text = false := by simpa using hradix
    rw [numberExtent_decimal hradix, isNumber_decimal hradix]
    exact isLongest_decimalFrom false false text

/-! ### Operators -/

/-- An operator of more than one character is the longest one that the text starts with. -/
theorem isLongest_operator (h : ∃ long ∈ longOperators, long <+: text) :
    IsLongest (· ∈ longOperators) text (text.take (operatorExtent text)) := by
  obtain ⟨long, hl, hp⟩ := h
  cases hf : longOperators.find? (·.isPrefixOf text) with
  | none => exact absurd (List.isPrefixOf_iff_prefix.2 hp) (List.find?_eq_none.1 hf long hl)
  | some operator =>
    have hstart : operator <+: text :=
      List.isPrefixOf_iff_prefix.1 (by simpa using List.find?_some hf)
    have hext : operatorExtent text = operator.length := by rw [operatorExtent, hf]
    rw [hext, ← List.prefix_iff_eq_take.1 hstart]
    exact ⟨hstart, List.mem_of_find?_eq_some hf,
      fun other ho hmem => hext ▸ length_le_operatorExtent hmem ho⟩

/-- Where no operator of more than one character comes, one character is taken. -/
theorem operatorExtent_eq_one (h : ∀ long ∈ longOperators, ¬ long <+: text) :
    operatorExtent text = 1 := by
  have hf : longOperators.find? (·.isPrefixOf text) = none :=
    List.find?_eq_none.2 fun long hl hp => h long hl (List.isPrefixOf_iff_prefix.1 hp)
  rw [operatorExtent, hf]

/-- What may stand at the start of a text that begins with the character `c` of an operator:
    punctuation by itself, the longest operator of the list, or the character by itself if
    the text starts with none of these. -/
inductive OperatorAt (c : Char) (text : List Char) : Kind → List Char → Prop
  | punctuation {kind : Kind} : punctuation? c = some kind → OperatorAt c text kind [c]
  | longest {kind : Kind} {operator : List Char} : punctuation? c = none →
      IsLongest (· ∈ longOperators) text operator → OperatorAt c text kind operator
  | single {kind : Kind} : punctuation? c = none → (∀ long ∈ longOperators, ¬ long <+: text) →
      OperatorAt c text kind [c]

/-- What begins as an operator is one or punctuation, unless it is a comment, a number or a
    regular expression. -/
theorem Measured.operatorAt {previous : Option Lexeme} {c : Char} {rest : List Char}
    {kind : Kind} {n : Nat} (h : Measured previous c rest (kind, n)) (ho : isOperatorStart c)
    (hk : kind ∉ [.lineComment, .inlineComment, .number, .regex]) :
    OperatorAt c (c :: rest) kind ((c :: rest).take n) := by
  obtain ⟨hw, hq, -⟩ := isWordStart_of_isOperatorStart ho
  cases h with
  | punctuation hp => exact .punctuation hp
  | operator hs =>
    have hp : punctuation? c = none := (isWordStart_of_mem_operatorStarts hs).2.2.2.2.1
    by_cases hlong : ∃ long ∈ longOperators, long <+: c :: rest
    · exact .longest hp (isLongest_operator hlong)
    · have hnone : ∀ long ∈ longOperators, ¬ long <+: c :: rest := by simpa using hlong
      rw [operatorExtent_eq_one hnone]
      exact .single hp hnone
  | word h => simp [hw] at h
  | string h => simp [hq] at h
  | unknown _ _ _ h => simp [ho] at h
  | _ => exact absurd hk (by decide)

end Lexeme

end ScriptLayout
