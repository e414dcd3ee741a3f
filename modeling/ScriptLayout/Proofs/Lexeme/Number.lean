import ScriptLayout.Lexeme.Number
import ScriptLayout.Lexeme.Word
import ScriptLayout.Proofs.Text.Search

/-!
# Numbers among other characters

A number ends in the same place before every text that does not continue it
(`numberExtent_append`). A point is what may continue a number although it
begins a token of its own, which depends on the number (`takesPoint`); if it
may, it does (`lt_numberExtent_period`).
-/

namespace ScriptLayout.Lexeme

variable {text rest rest' : List Char}

/-! ### Numbers -/

/-- The letters are those from A to Z and those from a to z. -/
theorem isAlpha_eq (c : Char) : c.isAlpha =
    (decide (c.val ≥ 'A'.val ∧ c.val ≤ 'Z'.val) || (c.val ≥ 'a'.val && c.val ≤ 'z'.val)) := rfl

theorem isHexDigit_eq_false {c : Char} (h : isWordPart c = false) : isHexDigit c = false := by
  simp [isHexDigit, isWordPart, isWordStart, isAlpha_eq, Char.isDigit, Char.le_def,
    UInt32.le_iff_toNat_le] at h ⊢
  omega

theorem isOctalDigit_eq_false {c : Char} (h : isWordPart c = false) : isOctalDigit c = false := by
  simp [isOctalDigit, isWordPart, isWordStart, isAlpha_eq, Char.isDigit, Char.le_def,
    UInt32.le_iff_toNat_le] at h ⊢
  omega

theorem isExponentMark_eq_false {c : Char} (h : isWordPart c = false) :
    isExponentMark c = false := by
  rw [isExponentMark, Bool.or_eq_false_iff, beq_eq_false_iff_ne, beq_eq_false_iff_ne]
  constructor <;> rintro rfl <;> exact absurd h (by decide)

theorem decimalExtent_digit {c : Char} (hd : c.isDigit) (point exponent : Bool)
    (text : List Char) :
    decimalExtent point exponent (c :: text) = 1 + decimalExtent point exponent text := by
  rw [decimalExtent.eq_def]
  simp [hd]

theorem decimalExtent_period (exponent : Bool) (text : List Char) :
    decimalExtent false exponent ('.' :: text) = 1 + decimalExtent true exponent text := by
  rw [decimalExtent.eq_def]
  simp

theorem isDigit_of_isExponentMark {c : Char} (hc : isExponentMark c) :
    c.isDigit = false ∧ c ≠ '.' := by
  rcases Bool.or_eq_true_iff.1 hc with hc | hc <;> obtain rfl := beq_iff_eq.1 hc <;> decide

theorem decimalExtent_mark_sign {c d : Char} (hc : isExponentMark c) (hd : isSign d)
    (point : Bool) (text : List Char) :
    decimalExtent point false (c :: d :: text) = 2 + decimalExtent point true text := by
  obtain ⟨hdigit, hperiod⟩ := isDigit_of_isExponentMark hc
  simp [decimalExtent, hdigit, hperiod, hc, hd]

theorem decimalExtent_mark {c : Char} (hc : isExponentMark c) (point : Bool)
    (hs : ∀ d ∈ text.head?, isSign d = false) :
    decimalExtent point false (c :: text) = 1 + decimalExtent point true text := by
  obtain ⟨hdigit, hperiod⟩ := isDigit_of_isExponentMark hc
  cases text with
  | nil => simp [decimalExtent, hdigit, hperiod, hc]
  | cons d text => simp [decimalExtent, hdigit, hperiod, hc, hs d rfl]

/-- Before anything but a digit, an exponent mark and a point that it can have,
    a decimal number does not go on. -/
theorem decimalExtent_eq_zero {point exponent : Bool}
    (h : ∀ c ∈ text.head?, c.isDigit = false ∧ isExponentMark c = false ∧
      (c = '.' → point = true)) :
    decimalExtent point exponent text = 0 := by
  cases text with
  | nil => rfl
  | cons c text =>
    obtain ⟨hd, he, hp⟩ := h c rfl
    have hp' : ¬ (c = '.' ∧ point = false) := fun ⟨hc, hf⟩ => by simp [hp hc] at hf
    rw [decimalExtent.eq_def]
    simp [hd, he, hp']

theorem decimalExtent_le (point exponent : Bool) (text : List Char) :
    decimalExtent point exponent text ≤ text.length := by
  fun_induction decimalExtent point exponent text <;> grind

/-- A decimal number ends in the same place before every text that does not
    continue it. -/
theorem decimalExtent_append {point exponent : Bool}
    (h : decimalExtent point exponent (text ++ rest) = text.length)
    (hr : ∀ c ∈ rest'.head?, c.isDigit = false ∧ isExponentMark c = false ∧ isSign c = false ∧
      (c = '.' → point = true ∨ '.' ∈ text)) :
    decimalExtent point exponent (text ++ rest') = text.length := by
  fun_induction decimalExtent point exponent text with
  | case1 point exponent =>
    -- The number ends here, and what follows does not go on with it.
    refine decimalExtent_eq_zero fun c hc => ?_
    obtain ⟨hd, he, -, hp⟩ := hr c hc
    exact ⟨hd, he, fun h => by simpa using hp h⟩
  | case2 point exponent c text hd ih =>
    have hc : c ≠ '.' := by rintro rfl; exact absurd hd (by decide)
    rw [List.cons_append, decimalExtent_digit hd, List.length_cons] at h ⊢
    rw [ih (by omega) (by simpa [hc.symm] using hr), Nat.add_comm]
  | case3 point exponent c text _ hp ih =>
    obtain ⟨rfl, rfl⟩ := hp
    rw [List.cons_append, decimalExtent_period, List.length_cons] at h ⊢
    rw [ih (by omega) fun c hc => (hr c hc).imp id (.imp id (.imp id fun _ _ => .inl rfl)),
      Nat.add_comm]
  | case4 point exponent c _ _ he =>
    -- It ends in an exponent mark, so that a sign after it would go on with it.
    obtain ⟨hc, rfl⟩ := he
    rw [List.cons_append, List.nil_append,
      decimalExtent_mark hc point fun d hd => (hr d hd).2.2.1, decimalExtent_eq_zero,
      List.length_singleton]
    intro d hd
    obtain ⟨hdigit, hmark, -, hp⟩ := hr d hd
    exact ⟨hdigit, hmark, fun h => by
      simpa [(isDigit_of_isExponentMark hc).2.symm] using hp h⟩
  | case5 point exponent c _ _ he d text hd ih =>
    obtain ⟨hc, rfl⟩ := he
    have hd' : d ≠ '.' := by rintro rfl; exact absurd hd (by decide)
    rw [List.cons_append, List.cons_append, decimalExtent_mark_sign hc hd, List.length_cons,
      List.length_cons] at h ⊢
    rw [ih (by omega)
      (by simpa [hd'.symm, (isDigit_of_isExponentMark hc).2.symm] using hr)]
    omega
  | case6 point exponent c _ _ he d text hd ih =>
    obtain ⟨hc, rfl⟩ := he
    have hs : ∀ rest : List Char, ∀ e ∈ (d :: text ++ rest).head?, isSign e = false := by
      simpa using hd
    rw [List.cons_append, decimalExtent_mark hc point (hs _), List.length_cons] at h ⊢
    rw [ih (by omega) (by simpa [(isDigit_of_isExponentMark hc).2.symm] using hr), Nat.add_comm]
  | case7 point exponent c text hd hp he =>
    rw [List.cons_append, decimalExtent.eq_def] at h
    simp [hd, hp, he] at h

/-- A decimal number without a point goes on into a point. -/
theorem lt_decimalExtent_period {point exponent : Bool}
    (h : decimalExtent point exponent (text ++ rest) = text.length) (hpoint : point = false)
    (hp : '.' ∉ text) :
    text.length < decimalExtent point exponent (text ++ '.' :: rest') := by
  fun_induction decimalExtent point exponent text with
  | case1 point exponent =>
    -- No point has been read on the way here, so that the next one is.
    obtain rfl := hpoint
    rw [List.nil_append, decimalExtent_period]
    exact Nat.lt_of_lt_of_le Nat.one_pos (Nat.le_add_right ..)
  | case2 point exponent c text hd ih =>
    rw [List.cons_append, decimalExtent_digit hd, List.length_cons] at h ⊢
    have := ih (by omega) hpoint fun hmem => hp (List.mem_cons_of_mem _ hmem)
    omega
  | case3 point exponent c text _ hc => exact absurd (hc.1 ▸ List.mem_cons_self) hp
  | case4 point exponent c _ _ he =>
    obtain ⟨hc, rfl⟩ := he
    obtain rfl := hpoint
    rw [List.cons_append, List.nil_append, decimalExtent_mark hc _ (by simp; decide),
      decimalExtent_period, List.length_singleton]
    omega
  | case5 point exponent c _ _ he d text hd ih =>
    obtain ⟨hc, rfl⟩ := he
    rw [List.cons_append, List.cons_append, decimalExtent_mark_sign hc hd, List.length_cons,
      List.length_cons] at h ⊢
    have := ih (by omega) hpoint
      fun hmem => hp (List.mem_cons_of_mem _ (List.mem_cons_of_mem _ hmem))
    omega
  | case6 point exponent c _ _ he d text hd ih =>
    obtain ⟨hc, rfl⟩ := he
    have hs : ∀ rest : List Char, ∀ e ∈ (d :: text ++ rest).head?, isSign e = false := by
      simpa using hd
    rw [List.cons_append, decimalExtent_mark hc point (hs _), List.length_cons] at h ⊢
    have := ih (by omega) hpoint fun hmem => hp (List.mem_cons_of_mem _ hmem)
    omega
  | case7 point exponent c text hd hc he =>
    rw [List.cons_append, decimalExtent.eq_def] at h
    simp [hd, hc, he] at h

/-- Whether a number is written in hexadecimal or octal digits. -/
def hasRadix : List Char → Bool
  | c :: d :: _ => c == '0' && (d == 'x' || d == 'X' || d.isDigit)
  | _ => false

/-- Whether a number goes on into a point right after it: it has none so far
    and is decimal. -/
def takesPoint (text : List Char) : Bool :=
  !text.contains '.' && !hasRadix text

theorem numberExtent_hex {c : Char} (hc : c = 'x' ∨ c = 'X') (text : List Char) :
    numberExtent ('0' :: c :: text) = 2 + (text.takeWhile isHexDigit).length := by
  simp [numberExtent, hc]

theorem numberExtent_octal {c : Char} (hc : c.isDigit) (text : List Char) :
    numberExtent ('0' :: c :: text) = (('0' :: c :: text).takeWhile isOctalDigit).length := by
  have hx : ¬ (c = 'x' ∨ c = 'X') := by rintro (rfl | rfl) <;> exact absurd hc (by decide)
  simp only [numberExtent, hx, hc, if_false, if_true]

theorem numberExtent_decimal (h : hasRadix text = false) :
    numberExtent text = decimalExtent false false text := by
  unfold numberExtent
  split
  · next c rest =>
    simp only [hasRadix, beq_self_eq_true, Bool.true_and, Bool.or_eq_false_iff,
      beq_eq_false_iff_ne] at h
    simp [h]
  · rfl

theorem numberExtent_le (text : List Char) : numberExtent text ≤ text.length := by
  unfold numberExtent
  split
  · next c rest =>
    split
    · have := (List.takeWhile_prefix (l := rest) isHexDigit).length_le
      simp only [List.length_cons]
      omega
    · split
      · exact (List.takeWhile_prefix _).length_le
      · exact decimalExtent_le ..
  · exact decimalExtent_le ..

/-- What has been read as a number without a radix has been read as a decimal
    number; a lone zero, although it may stand before a digit, counts as one. -/
theorem exists_decimalExtent (hpos : text ≠ []) (h : numberExtent (text ++ rest) = text.length)
    (hr : hasRadix text = false) :
    ∃ rest, decimalExtent false false (text ++ rest) = text.length := by
  match text with
  | c :: d :: text =>
    have hr' : hasRadix (c :: d :: text ++ rest) = false := hr
    exact ⟨rest, numberExtent_decimal hr' ▸ h⟩
  | [c] =>
    by_cases hradix : hasRadix (c :: rest) = false
    · exact ⟨rest, numberExtent_decimal hradix ▸ h⟩
    · obtain rfl : c = '0' := by
        cases rest with
        | nil => simp [hasRadix] at hradix
        | cons d rest => simp [hasRadix] at hradix; exact hradix.1
      exact ⟨[], rfl⟩

/-- A number ends in the same place before every text that begins with neither a
    letter, a digit nor a sign, and with a point only if it takes none. -/
theorem numberExtent_append (hpos : text ≠ []) (h : numberExtent (text ++ rest) = text.length)
    (hr : ∀ c ∈ rest'.head?, isWordPart c = false ∧ isSign c = false ∧
      (c = '.' → takesPoint text = false)) :
    numberExtent (text ++ rest') = text.length := by
  by_cases hradix : hasRadix text
  · match text with
    | c :: d :: text =>
      simp only [hasRadix, Bool.and_eq_true, beq_iff_eq, Bool.or_eq_true] at hradix
      obtain ⟨rfl, hd⟩ := hradix
      rw [List.cons_append, List.cons_append] at h ⊢
      by_cases hx : d = 'x' ∨ d = 'X'
      · rw [numberExtent_hex hx, List.length_cons, List.length_cons, Nat.add_comm 2] at h ⊢
        rw [Text.length_takeWhile_append (Nat.add_right_cancel h) fun c hc =>
          isHexDigit_eq_false (hr c hc).1]
      · rw [numberExtent_octal (hd.resolve_left hx)] at h ⊢
        exact @Text.length_takeWhile_append ('0' :: d :: text) rest rest' _ h fun c hc =>
          isOctalDigit_eq_false (hr c hc).1
  · have hradix : hasRadix text = false := by simpa using hradix
    obtain ⟨rest, h⟩ := exists_decimalExtent hpos h hradix
    have hdigit : ∀ c ∈ rest'.head?, c.isDigit = false := fun c hc =>
      (Bool.or_eq_false_iff.1 (hr c hc).1).2
    -- A lone zero could be given a radix by what follows, but only by a letter or digit.
    have hradix' : hasRadix (text ++ rest') = false := by
      match text, rest' with
      | _ :: _ :: _, _ => exact hradix
      | [c], [] => exact hradix
      | [c], d :: rest' =>
        have hx : isWordPart d = false := (hr d rfl).1
        have : d ≠ 'x' ∧ d ≠ 'X' := by constructor <;> rintro rfl <;> exact absurd hx (by decide)
        simp [hasRadix, this, hdigit d rfl]
    rw [numberExtent_decimal hradix']
    refine decimalExtent_append h fun c hc => ⟨hdigit c hc, isExponentMark_eq_false (hr c hc).1,
      (hr c hc).2.1, fun h => .inr ?_⟩
    simpa [takesPoint, hradix] using (hr c hc).2.2 h

/-- A point and a digit form a number together. -/
theorem one_lt_numberExtent (h : rest.head?.any Char.isDigit) :
    1 < numberExtent ('.' :: rest) := by
  obtain ⟨d, hd, hdigit⟩ := (Option.any_eq_true _ _).1 h
  obtain ⟨rest, rfl⟩ := List.head?_eq_some_iff.1 hd
  rw [numberExtent_decimal (by simp [hasRadix]), decimalExtent_period, decimalExtent_digit hdigit]
  omega

/-- A number that takes a point goes on into it. -/
theorem lt_numberExtent_period (hpos : text ≠ []) (h : numberExtent (text ++ rest) = text.length)
    (hp : takesPoint text) : text.length < numberExtent (text ++ '.' :: rest') := by
  simp only [takesPoint, Bool.and_eq_true, Bool.not_eq_true', List.contains_eq_mem,
    decide_eq_false_iff_not] at hp
  obtain ⟨rest, h⟩ := exists_decimalExtent hpos h hp.2
  have hradix : hasRadix (text ++ '.' :: rest') = false := by
    match text with
    | c :: d :: text => exact hp.2
    | [c] => simp [hasRadix]
  rw [numberExtent_decimal hradix]
  exact lt_decimalExtent_period h rfl hp.1

end ScriptLayout.Lexeme
