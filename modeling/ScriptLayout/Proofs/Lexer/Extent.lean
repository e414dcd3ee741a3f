import ScriptLayout.Proofs.Lexeme.Closing
import ScriptLayout.Proofs.Lexeme.Longest
import ScriptLayout.Proofs.Lexer.Continuation

/-!
# How far tokens go

Where each token of a source ends, said of the source from the start of the token on and
not of the scan that finds it:

  * `regex_ends` and `string_ends` — at the first place that closes them, told by the
    backslashes and brackets before it;
  * `number_longest` — with the longest text that has the form of a number;
  * `token_maximal` — tokens of the other kinds are as long as they can be, too, and what
    is unknown is one character that begins nothing else.
-/

namespace ScriptLayout

variable {source : String} {k : Nat} {previous : Option Lexeme} {t : Lexeme} {after : List Char}

/-- A token stands in its source after some text, and is what the rest of it starts with. -/
theorem exists_heads_of_lt (hk : k < (tokens source).length) : ∃ front after,
    source.toList = front ++ ((tokens source)[k].text.toList ++ after) ∧
      tokenStart source k = Text.size front ∧
      (tokens source)[k].toLexeme.Heads (lexemeBefore source k) after := by
  obtain ⟨hh, hahead⟩ := heads_cursorAfter hk
  refine ⟨_, _, ?_, tokenStart_eq source k, hh⟩
  rw [source_cursorAfter source k, hahead, List.append_assoc]

namespace Lexeme

open Text (IsLongest)

/-! ### The texts of lexemes -/

/-- A lexeme is as much of the text that it starts as was measured there. -/
theorem Heads.eq_take (h : t.Heads previous after) : ∃ c rest n,
    t.text.toList ++ after = c :: rest ∧ t.text.toList.head? = some c ∧
      Measured previous c rest (t.kind, n) ∧ t.text.toList = (c :: rest).take n := by
  obtain ⟨c, tail, ht, -, hm⟩ := h
  refine ⟨c, tail ++ after, tail.length + 1, ht ▸ rfl, ht ▸ rfl, hm, ?_⟩
  rw [List.take_succ_cons, List.take_left, ht]

/-- A string ends at the first quote that closes it. -/
theorem Heads.string (h : t.Heads previous after) (hk : t.kind = .string) :
    ∃ quote body, t.text.toList ++ after = quote :: body ∧ isQuote quote ∧
      ClosedAtFirst (ClosesString quote body) (fun n => quote :: body.take (n + 1))
        (quote :: body) t.text.toList := by
  obtain ⟨quote, body, n, htext, -, hm, htake⟩ := h.eq_take
  rw [hk] at hm
  have hq : isQuote quote := hm.startsAs
  obtain ⟨-, rfl⟩ := Prod.mk.inj (hm.unique (.string hq))
  have hne : quote ≠ '\\' := by rcases eq_of_isQuote hq with rfl | rfl <;> decide
  rw [stringExtent, Nat.add_comm, List.take_succ_cons] at htake
  exact ⟨quote, body, htext, hq, htake ▸ (closedAtFirst_string hne body).map (quote :: ·)⟩

/-- A regular expression ends at the first slash that closes it and the letters after that,
    or with its line. -/
theorem Heads.regex (h : t.Heads previous after) (hk : t.kind = .regex) :
    ∃ body, t.text.toList ++ after = '/' :: body ∧
      ClosedAtFirst (ClosesRegex body)
        (fun n => '/' :: (body.take (n + 1) ++ (body.drop (n + 1)).takeWhile Text.isAlphabetic))
        ('/' :: body.takeWhile fun c => !isLineBreak c) t.text.toList := by
  obtain ⟨c, body, n, htext, -, hm, htake⟩ := h.eq_take
  rw [hk] at hm
  obtain ⟨rfl, ha, hl, hi⟩ : StartsAs previous c body .regex := hm.startsAs
  obtain ⟨-, rfl⟩ := Prod.mk.inj (hm.unique (.regex ha hl hi))
  have hclosed := (regexRest_regexTail false body).map ('/' :: ·)
  rw [Bool.false_eq_true, closesRegexFrom_false] at hclosed
  rw [regexExtent, Nat.add_comm, List.take_succ_cons] at htake
  exact ⟨body, htext, htake ▸ hclosed⟩

/-- A digit, or a point and a digit, at the start of a text. -/
def BeginsNumber (text : List Char) : Prop :=
  ∃ c rest, text = c :: rest ∧ (c.isDigit ∨ c = '.' ∧ rest.head?.any Char.isDigit)

/-- Where a lexeme is a number, and how far that goes. -/
theorem Heads.number (h : t.Heads previous after) :
    (t.kind = .number ↔ BeginsNumber (t.text.toList ++ after)) ∧
      (t.kind = .number → IsLongest (IsNumber (t.text.toList ++ after))
        (t.text.toList ++ after) t.text.toList) := by
  obtain ⟨c, rest, n, htext, -, hm, htake⟩ := h.eq_take
  rw [htext]
  refine ⟨⟨fun hk => ?_, ?_⟩, fun hk => ?_⟩
  · rw [hk] at hm
    exact ⟨c, rest, rfl, hm.startsAs⟩
  · rintro ⟨_, _, ⟨⟩, hstart⟩
    exact (Prod.mk.inj (hm.unique (.number hstart))).1
  · rw [hk] at hm
    obtain ⟨-, rfl⟩ := Prod.mk.inj (hm.unique (.number hm.startsAs))
    rw [htake]
    exact isLongest_number (c :: rest)

/-- A word is the longest run of the characters of words. -/
theorem Heads.symbol (h : t.Heads previous after) (hk : t.kind = .symbol) :
    (∀ c ∈ t.text.toList.head?, isWordStart c) ∧
      IsLongest (fun run => ∀ c ∈ run, isWordPart c) (t.text.toList ++ after) t.text.toList := by
  obtain ⟨c, rest, n, htext, hhead, hm, htake⟩ := h.eq_take
  rw [hk] at hm
  have hw : isWordStart c := hm.startsAs
  obtain ⟨-, rfl⟩ := Prod.mk.inj (hm.unique (.word hw))
  rw [wordExtent, ← List.prefix_iff_eq_take.1 (List.takeWhile_prefix _)] at htake
  rw [hhead, htext, htake]
  exact ⟨fun d hd => Option.some.inj hd ▸ hw, Text.isLongest_takeWhile isWordPart (c :: rest)⟩

/-- A line comment goes to the end of its line. -/
theorem Heads.lineComment (h : t.Heads previous after) (hk : t.kind = .lineComment) :
    ['/', '/'] <+: t.text.toList ∧ (∀ c ∈ t.text.toList, isLineBreak c = false) ∧
      ∀ c ∈ after.head?, isLineBreak c := by
  obtain ⟨c, rest, n, htext, -, hm, htake⟩ := h.eq_take
  rw [hk] at hm
  obtain ⟨rfl, hslash⟩ : StartsAs previous c rest .lineComment := hm.startsAs
  obtain ⟨rest, rfl⟩ := List.head?_eq_some_iff.1 hslash
  obtain ⟨-, rfl⟩ := Prod.mk.inj (hm.unique .lineComment)
  rw [lineCommentExtent, ← List.prefix_iff_eq_take.1 (List.takeWhile_prefix _)] at htake
  have hrun : ((t.text.toList ++ after).takeWhile fun c => !isLineBreak c).length =
      t.text.toList.length := by rw [htext, ← htake]
  refine ⟨?_, ?_, ?_⟩
  · rw [htake]
    exact ⟨rest.takeWhile fun c => !isLineBreak c, rfl⟩
  · simpa using Text.all_of_length_takeWhile hrun
  · simpa using Text.of_length_takeWhile hrun

/-- An inline comment ends with the next star and slash. -/
theorem Heads.inlineComment (h : t.Heads previous after) (hk : t.kind = .inlineComment) :
    ∃ body, t.text.toList ++ after = '/' :: '*' :: body ∧
      ClosedAtFirst (fun n => ['*', '/'] <+: body.drop n)
        (fun n => '/' :: '*' :: body.take (n + 2)) ('/' :: '*' :: body) t.text.toList := by
  obtain ⟨c, rest, n, htext, -, hm, htake⟩ := h.eq_take
  rw [hk] at hm
  obtain ⟨rfl, hstar⟩ : StartsAs previous c rest .inlineComment := hm.startsAs
  obtain ⟨body, rfl⟩ := List.head?_eq_some_iff.1 hstar
  obtain ⟨-, rfl⟩ := Prod.mk.inj (hm.unique .inlineComment)
  have hclosed := (closedAtFirst_inlineComment body).map ('/' :: '*' :: ·)
  have htwo : inlineCommentExtent body - 2 + 1 + 1 = inlineCommentExtent body :=
    Nat.sub_add_cancel (two_le_inlineCommentExtent body)
  rw [← htwo, List.take_succ_cons, List.take_succ_cons] at htake
  exact ⟨body, htext, htake ▸ hclosed⟩

/-- Punctuation is one character, and an operator the longest of the list or one character
    if the text starts with none of these. -/
theorem Heads.operator (h : t.Heads previous after)
    (hk : t.kind ∉ [.lineComment, .inlineComment, .number, .regex]) {c : Char}
    (hc : c ∈ t.text.toList.head?) (ho : isOperatorStart c) :
    OperatorAt c (t.text.toList ++ after) t.kind t.text.toList := by
  obtain ⟨_, rest, n, htext, hhead, hm, htake⟩ := h.eq_take
  obtain rfl := Option.some.inj (hhead.symm.trans hc)
  rw [htext, htake]
  exact hm.operatorAt ho hk

/-- What is unknown is one character that begins no lexeme of another kind and is no
    blank. -/
theorem Heads.unknown (h : t.Heads previous after) (hk : t.kind = .unknown) :
    ∃ c, t.text.toList = [c] ∧ isLexemeStart c = false ∧ Text.isBlank c = false := by
  obtain ⟨c, tail, ht, hb, hm⟩ := h
  rw [hk] at hm
  have hstart : isLexemeStart c = false := hm.startsAs
  obtain ⟨⟨⟨hw, hq⟩, hd⟩, ho⟩ : ((isWordStart c = false ∧ isQuote c = false) ∧
      c.isDigit = false) ∧ isOperatorStart c = false := by
    simpa only [isLexemeStart, Bool.or_eq_false_iff] using hstart
  have hlen := (Prod.mk.inj (hm.unique (.unknown hw hq hd ho))).2
  obtain rfl : tail = [] := List.eq_nil_of_length_eq_zero (Nat.succ.inj hlen)
  exact ⟨c, ht, hstart, hb⟩

/-- The other kinds of lexemes begin with one of the characters that may begin them. -/
theorem Heads.known (h : t.Heads previous after) (hk : t.kind ≠ .unknown) :
    ∀ c ∈ t.text.toList.head?, isLexemeStart c := by
  obtain ⟨c, rest, n, -, hhead, hm, -⟩ := h.eq_take
  rw [hhead]
  exact fun d hd => Option.some.inj hd ▸ isLexemeStart_of_startsAs hm.startsAs hk

/-- A lexeme that cannot be longer in view of the text after it. There is more to say of
    strings, numbers and regular expressions. -/
structure IsMaximal (t : Lexeme) (after : List Char) : Prop where
  /-- A word is the longest run of the characters of words. -/
  symbol : t.kind = .symbol → (∀ c ∈ t.text.toList.head?, isWordStart c) ∧
    IsLongest (fun run => ∀ c ∈ run, isWordPart c) (t.text.toList ++ after) t.text.toList
  /-- A line comment goes to the end of its line. -/
  lineComment : t.kind = .lineComment → ['/', '/'] <+: t.text.toList ∧
    (∀ c ∈ t.text.toList, isLineBreak c = false) ∧ ∀ c ∈ after.head?, isLineBreak c
  /-- An inline comment ends with the next star and slash, or with the text. -/
  inlineComment : t.kind = .inlineComment → ∃ body,
    t.text.toList ++ after = '/' :: '*' :: body ∧
      ClosedAtFirst (fun n => ['*', '/'] <+: body.drop n)
        (fun n => '/' :: '*' :: body.take (n + 2)) ('/' :: '*' :: body) t.text.toList
  /-- What begins as an operator is punctuation or the longest operator. -/
  operator : t.kind ∉ [.lineComment, .inlineComment, .number, .regex] →
    ∀ c ∈ t.text.toList.head?, isOperatorStart c →
      OperatorAt c (t.text.toList ++ after) t.kind t.text.toList
  /-- What is unknown is one character that begins no other lexeme and is no blank. -/
  unknown : t.kind = .unknown →
    ∃ c, t.text.toList = [c] ∧ isLexemeStart c = false ∧ Text.isBlank c = false
  /-- The other kinds begin with one of the characters that may begin them. -/
  known : t.kind ≠ .unknown → ∀ c ∈ t.text.toList.head?, isLexemeStart c

theorem Heads.isMaximal (h : t.Heads previous after) : t.IsMaximal after where
  symbol := h.symbol
  lineComment := h.lineComment
  inlineComment := h.inlineComment
  operator hk _ hc ho := h.operator hk hc ho
  unknown := h.unknown
  known := h.known

end Lexeme

open Lexeme

/-! ### Tokens of a source -/

/-- Every string of a source ends at the first quote of its own that is not escaped, and at
    the end of the source if there is none. Nothing else ends it: neither the other quote
    nor a line break. -/
theorem string_ends (source : String) {k : Nat} (hk : k < (tokens source).length)
    (hs : (tokens source)[k].kind = .string) :
    ∃ front quote body, source.toList = front ++ quote :: body ∧
      tokenStart source k = Text.size front ∧ isQuote quote ∧
      ClosedAtFirst (ClosesString quote body) (fun n => quote :: body.take (n + 1))
        (quote :: body) (tokens source)[k].text.toList ∧
      ∀ c ∈ (tokens source)[k].text.toList.getLast?,
        c ≠ quote → (tokens source)[k].text.toList = quote :: body := by
  obtain ⟨front, after, hsource, hstart, hh⟩ := exists_heads_of_lt hk
  obtain ⟨quote, body, htext, hq, hclosed⟩ := hh.string hs
  rw [htext] at hsource
  exact ⟨front, quote, body, hsource, hstart, hq, hclosed, hclosed.eq_of_getLast?_ne⟩

/-- A string in which the other quote, a line break, an escaped quote and an escaped
    backslash come before its end. -/
theorem string_ends_escaped :
    (lexemes "x=\"a'\n\\\"\\\\\"+y")[2]? = some ⟨.string, "\"a'\n\\\"\\\\\""⟩ ∧
    ∃ front quote body, "x=\"a'\n\\\"\\\\\"+y".toList = front ++ quote :: body ∧
      tokenStart "x=\"a'\n\\\"\\\\\"+y" 2 = Text.size front ∧ isQuote quote ∧
      ClosedAtFirst (ClosesString quote body) (fun n => quote :: body.take (n + 1))
        (quote :: body) "\"a'\n\\\"\\\\\"".toList ∧
      ∀ c ∈ "\"a'\n\\\"\\\\\"".toList.getLast?,
        c ≠ quote → "\"a'\n\\\"\\\\\"".toList = quote :: body := by
  have ht : tokens "x=\"a'\n\\\"\\\\\"+y" = [⟨⟨.symbol, "x"⟩, ⟨1, 1, 1⟩, none⟩,
      ⟨⟨.binaryOperator, "="⟩, ⟨1, 2, 1⟩, some ⟨.symbol, "x"⟩⟩,
      ⟨⟨.string, "\"a'\n\\\"\\\\\""⟩, ⟨1, 3, 9⟩, some ⟨.binaryOperator, "="⟩⟩,
      ⟨⟨.binaryOperator, "+"⟩, ⟨2, 6, 1⟩, some ⟨.string, "\"a'\n\\\"\\\\\""⟩⟩,
      ⟨⟨.symbol, "y"⟩, ⟨2, 7, 1⟩, some ⟨.binaryOperator, "+"⟩⟩] := by
    decide +kernel
  have hk : 2 < (tokens "x=\"a'\n\\\"\\\\\"+y").length := by rw [ht]; decide
  have h := string_ends "x=\"a'\n\\\"\\\\\"+y" hk (by simp only [ht]; rfl)
  simp only [ht] at h
  exact ⟨by rw [lexemes, ht]; rfl, h⟩

/-- Every regular expression of a source ends at the first slash on its line that is neither
    escaped nor in a class, and the letters after that; and at the end of its line, without
    letters, if there is none. -/
theorem regex_ends (source : String) {k : Nat} (hk : k < (tokens source).length)
    (hr : (tokens source)[k].kind = .regex) :
    ∃ front body, source.toList = front ++ '/' :: body ∧
      tokenStart source k = Text.size front ∧
      ClosedAtFirst (ClosesRegex body)
        (fun n => '/' :: (body.take (n + 1) ++ (body.drop (n + 1)).takeWhile Text.isAlphabetic))
        ('/' :: body.takeWhile fun c => !isLineBreak c) (tokens source)[k].text.toList := by
  obtain ⟨front, after, hsource, hstart, hh⟩ := exists_heads_of_lt hk
  obtain ⟨body, htext, hclosed⟩ := hh.regex hr
  rw [htext] at hsource
  exact ⟨front, body, hsource, hstart, hclosed⟩

/-- A regular expression with a slash and an escaped bracket in a class, an escaped slash, and
    flags that are not all ASCII. -/
theorem regex_ends_class :
    (lexemes "x=/[/\\]]\\//gé.y")[2]? = some ⟨.regex, "/[/\\]]\\//gé"⟩ ∧
    ∃ front body, "x=/[/\\]]\\//gé.y".toList = front ++ '/' :: body ∧
      tokenStart "x=/[/\\]]\\//gé.y" 2 = Text.size front ∧
      ClosedAtFirst (ClosesRegex body)
        (fun n => '/' :: (body.take (n + 1) ++ (body.drop (n + 1)).takeWhile Text.isAlphabetic))
        ('/' :: body.takeWhile fun c => !isLineBreak c) "/[/\\]]\\//gé".toList := by
  have ht : tokens "x=/[/\\]]\\//gé.y" = [⟨⟨.symbol, "x"⟩, ⟨1, 1, 1⟩, none⟩,
      ⟨⟨.binaryOperator, "="⟩, ⟨1, 2, 1⟩, some ⟨.symbol, "x"⟩⟩,
      ⟨⟨.regex, "/[/\\]]\\//gé"⟩, ⟨1, 3, 12⟩, some ⟨.binaryOperator, "="⟩⟩,
      ⟨⟨.dot, "."⟩, ⟨1, 15, 1⟩, some ⟨.regex, "/[/\\]]\\//gé"⟩⟩,
      ⟨⟨.symbol, "y"⟩, ⟨1, 16, 1⟩, some ⟨.dot, "."⟩⟩] := by
    decide +kernel
  have hk : 2 < (tokens "x=/[/\\]]\\//gé.y").length := by rw [ht]; decide
  have h := regex_ends "x=/[/\\]]\\//gé.y" hk (by simp only [ht]; rfl)
  simp only [ht] at h
  exact ⟨by rw [lexemes, ht]; rfl, h⟩

/-- A token of a source is a number if it starts with a digit, or with a point and a digit,
    and only then; and a number is as long as its form allows. -/
theorem number_longest (source : String) {k : Nat} (hk : k < (tokens source).length) :
    ∃ front rest, source.toList = front ++ rest ∧ tokenStart source k = Text.size front ∧
      ((tokens source)[k].kind = .number ↔ BeginsNumber rest) ∧
      ((tokens source)[k].kind = .number →
        Text.IsLongest (IsNumber rest) rest (tokens source)[k].text.toList) := by
  obtain ⟨front, after, hsource, hstart, hh⟩ := exists_heads_of_lt hk
  exact ⟨front, _, hsource, hstart, hh.number⟩

/-- An exponent with a sign and no digits, and a point that the next number begins with. -/
theorem number_longest_sign :
    (lexemes "1.e+-.5.5")[0]? = some ⟨.number, "1.e+"⟩ ∧
    ∃ front rest, "1.e+-.5.5".toList = front ++ rest ∧
      tokenStart "1.e+-.5.5" 0 = Text.size front ∧
      (Kind.number = .number ↔ BeginsNumber rest) ∧
      (Kind.number = .number → Text.IsLongest (IsNumber rest) rest "1.e+".toList) := by
  have ht : tokens "1.e+-.5.5" = [⟨⟨.number, "1.e+"⟩, ⟨1, 1, 4⟩, none⟩,
      ⟨⟨.binaryOperator, "-"⟩, ⟨1, 5, 1⟩, some ⟨.number, "1.e+"⟩⟩,
      ⟨⟨.number, ".5"⟩, ⟨1, 6, 2⟩, some ⟨.binaryOperator, "-"⟩⟩,
      ⟨⟨.number, ".5"⟩, ⟨1, 8, 2⟩, some ⟨.number, ".5"⟩⟩] := by
    decide +kernel
  have hk : 0 < (tokens "1.e+-.5.5").length := by rw [ht]; decide
  have h := number_longest "1.e+-.5.5" hk
  simp only [ht] at h
  exact ⟨by rw [lexemes, ht]; rfl, h⟩

/-- Every token of a source is as long as its kind allows. -/
theorem token_maximal (source : String) {k : Nat} (hk : k < (tokens source).length) :
    ∃ front after, source.toList = front ++ ((tokens source)[k].text.toList ++ after) ∧
      tokenStart source k = Text.size front ∧ (tokens source)[k].toLexeme.IsMaximal after := by
  obtain ⟨front, after, hsource, hstart, hh⟩ := exists_heads_of_lt hk
  exact ⟨front, after, hsource, hstart, hh.isMaximal⟩

/-- An operator of four characters that begins with others of one, two and three. -/
theorem token_maximal_operator :
    (lexemes "a>>>==b")[1]? = some ⟨.binaryOperator, ">>>="⟩ ∧
    ∃ front after, "a>>>==b".toList = front ++ (">>>=".toList ++ after) ∧
      tokenStart "a>>>==b" 1 = Text.size front ∧
      Lexeme.IsMaximal ⟨.binaryOperator, ">>>="⟩ after := by
  have ht : tokens "a>>>==b" = [⟨⟨.symbol, "a"⟩, ⟨1, 1, 1⟩, none⟩,
      ⟨⟨.binaryOperator, ">>>="⟩, ⟨1, 2, 4⟩, some ⟨.symbol, "a"⟩⟩,
      ⟨⟨.binaryOperator, "="⟩, ⟨1, 6, 1⟩, some ⟨.binaryOperator, ">>>="⟩⟩,
      ⟨⟨.symbol, "b"⟩, ⟨1, 7, 1⟩, some ⟨.binaryOperator, "="⟩⟩] := by
    decide +kernel
  have hk : 1 < (tokens "a>>>==b").length := by rw [ht]; decide
  have h := token_maximal "a>>>==b" hk
  simp only [ht] at h
  exact ⟨by rw [lexemes, ht]; rfl, h⟩

end ScriptLayout
