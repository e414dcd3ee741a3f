import ScriptLayout.Proofs.Lexeme.Boundary
import ScriptLayout.Proofs.Lexer.Cover

/-!
# Sources that go on otherwise

What comes after some tokens of a source may be put in place of by another text, as long
as the last of these tokens ends before it where it did. The tokens are the same up to
there, and from there on what the new text is read as in view of the last of them
(`reads_replaced`).

How much of a token matters to the reading of the next one is little: whether it is a
value that a slash may divide, and whether it is an operand of a sign or of an increment
(`Lexeme.Heads.in_context`). Many kinds of tokens are none of these, as is the beginning
of a source (`startingKinds`). So where a token of such a kind ends a text, another text
on the next line is read as it is by itself (`lexemes_append_newline`).
-/

namespace ScriptLayout

variable {source : String} {k : Nat} {previous previous' : Option Lexeme} {t : Lexeme}
  {ts : List Lexeme} {text rest rest' : List Char} {c : Char}

/-! ### The tokens before a place -/

/-- The lexeme before the one with the number `k`, if there is one. -/
def lexemeBefore (source : String) (k : Nat) : Option Lexeme :=
  ((lexemes source).take k).getLast?

theorem getElem_lexemes (hk : k < (tokens source).length) :
    (lexemes source)[k]? = some (tokens source)[k].toLexeme := by
  rw [lexemes, List.getElem?_map, List.getElem?_eq_getElem hk, Option.map_some]

theorem take_lexemes_succ (hk : k < (tokens source).length) :
    (lexemes source).take (k + 1) = (lexemes source).take k ++ [(tokens source)[k].toLexeme] := by
  rw [List.take_add_one, getElem_lexemes hk, Option.toList_some]

theorem lexemeBefore_succ (hk : k < (tokens source).length) :
    lexemeBefore source (k + 1) = some (tokens source)[k].toLexeme := by
  rw [lexemeBefore, take_lexemes_succ hk, List.getLast?_concat]

/-- The token delivered last is the one before the next. -/
theorem current_forward_ofString (hk : k ≤ (tokens source).length) :
    ((Lexer.ofString source).forward k).current.map Token.toLexeme = lexemeBefore source k := by
  cases k with
  | zero => rfl
  | succ k => rw [lexemeBefore_succ hk, Lexer.current_forward hk]; rfl

/-- What a cursor stands before is blanks, the next token, and what the cursor after that
    stands before. -/
theorem heads_cursorAfter (hk : k < (tokens source).length) :
    (tokens source)[k].toLexeme.Heads (lexemeBefore source k) (cursorAfter source (k + 1)).ahead ∧
      (cursorAfter source k).ahead = gapBefore source k ++
        ((tokens source)[k].text.toList ++ (cursorAfter source (k + 1)).ahead) := by
  have ht := Lexer.token?_of_next? (Lexer.pending_forward rfl k) (Lexer.next?_forward_of_lt hk)
  rw [current_forward_ofString hk.le] at ht
  have hheads : (tokens source)[k].toLexeme.Heads (lexemeBefore source k)
      (cursorAfter source (k + 1)).ahead ∧ ∃ blanks, (∀ c ∈ blanks, Text.isBlank c) ∧
        (cursorAfter source k).ahead =
          blanks ++ ((tokens source)[k].text.toList ++ (cursorAfter source (k + 1)).ahead) :=
    Cursor.ahead_of_token? ht
  obtain ⟨hh, blanks, hb, hahead⟩ := hheads
  have hdrop : (cursorAfter source k).ahead.dropWhile Text.isBlank = _ :=
    hahead ▸ hh.dropWhile_eq hb
  refine ⟨hh, ?_⟩
  rw [gapBefore, ← hdrop, List.takeWhile_append_dropWhile]

theorem isBlank_of_mem_gapBefore : ∀ c ∈ gapBefore source k, Text.isBlank c :=
  fun _ hc => List.mem_takeWhile_imp hc

/-! ### Another text after some tokens -/

/-- Where the last of `k` tokens still ends before a text, a source that goes on with the
    text has these tokens, and then what the text is read as. -/
theorem reads_replaced (hk : k ≤ (tokens source).length)
    (hlast : ∀ t ∈ lexemeBefore source k, ∀ previous,
      t.Heads previous (cursorAfter source k).ahead → t.Heads previous text)
    (hr : Reads (lexemeBefore source k) text ts) :
    Reads none ((cursorAfter source k).behind.reverse ++ text) ((lexemes source).take k ++ ts) := by
  induction k generalizing text ts with
  | zero => exact hr
  | succ k ih =>
    obtain ⟨hh, hahead⟩ := heads_cursorAfter hk
    rw [lexemeBefore_succ hk] at hlast hr
    have htext : (cursorAfter source (k + 1)).behind.reverse ++ text =
        (cursorAfter source k).behind.reverse ++
          (gapBefore source k ++ ((tokens source)[k].text.toList ++ text)) := by
      rw [behind_cursorAfter_succ hk]
      simp only [List.append_assoc]
    rw [htext, take_lexemes_succ hk, List.append_assoc]
    refine ih (Nat.le_of_succ_le hk) (fun t _ previous ht => ht.congr ?_)
      (.next isBlank_of_mem_gapBefore (hlast _ rfl _ hh) hr)
    -- The token before is followed by the same blanks, or by the same token.
    obtain ⟨c, tail, hc⟩ := List.exists_cons_of_ne_nil (text_ne_nil hk)
    rw [hahead, hc]
    cases gapBefore source k <;> rfl

/-! ### The context of a lexeme -/

namespace Lexeme

/-- The kinds of the operands that a sign may stand after. -/
def signOperands : List Kind :=
  [.symbol, .number, .string, .regex, .closeParen, .closeBracket]

/-- The kinds of the operands that an increment may stand after. -/
def incrementOperands : List Kind :=
  [.symbol, .closeParen, .closeBracket]

/-- Signs and increments are what they are at the start of a text, unless they have an
    operand before them. -/
theorem operatorKind_eq_start {operator : List Char} {kind : Kind}
    (hs : operator ∈ [['+'], ['-']] → kind ∉ signOperands)
    (hi : operator ∈ [['+', '+'], ['-', '-']] → kind ∉ incrementOperands) :
    operatorKind operator kind = operatorKind operator .unknown := by
  unfold operatorKind
  split
  · rfl
  · rfl
  · have hkind := hi (by simp)
    cases kind <;> first | rfl | exact absurd (by decide) hkind
  · have hkind := hi (by simp)
    cases kind <;> first | rfl | exact absurd (by decide) hkind
  · have hkind := hs (by simp)
    cases kind <;> first | rfl | exact absurd (by decide) hkind
  · have hkind := hs (by simp)
    cases kind <;> first | rfl | exact absurd (by decide) hkind
  · rfl

/-- A lexeme is read after another one, too, if neither makes a slash or an operator
    something else. -/
theorem Heads.in_context (h : t.Heads previous rest)
    (hr : t.kind = .regex → regexAllowed previous')
    (hs : regexAllowed previous = false → regexAllowed previous' = false)
    (ho : t.kind ∈ [.binaryOperator, .unaryPrefix, .unarySuffix] →
      operatorKind t.text.toList (kindOf previous') = t.kind) : t.Heads previous' rest := by
  obtain ⟨c, tail, ht, hc, hm⟩ := h
  refine ⟨c, tail, ht, hc, ?_⟩
  obtain ⟨follow, hfollow⟩ : ∃ follow, follow = tail ++ rest := ⟨_, rfl⟩
  obtain ⟨result, hresult⟩ : ∃ result, result = (t.kind, tail.length + 1) := ⟨_, rfl⟩
  rw [← hfollow, ← hresult] at hm ⊢
  cases hm with
  | word hw => exact .word hw
  | lineComment => exact .lineComment
  | inlineComment => exact .inlineComment
  | string hq => exact .string hq
  | number hn => exact .number hn
  | regex ha hl hi => exact .regex (hr (Prod.mk.inj hresult).1.symm) hl hi
  | punctuation hp hd => exact .punctuation hp hd
  | operator hstart hslash =>
    obtain ⟨hkind, hlen⟩ := Prod.mk.inj hresult
    have htake : (c :: follow).take (operatorExtent (c :: follow)) = t.text.toList := by
      rw [hlen, hfollow, ht]
      exact @List.take_left _ (c :: tail) rest
    have hmem : t.kind ∈ [.binaryOperator, .unaryPrefix, .unarySuffix] := by
      rcases operatorKind_eq t.text.toList (kindOf previous) with hk | hk | hk <;>
        rw [htake, hk] at hkind <;> simp [← hkind]
    rw [hkind, ← ho hmem, ← htake]
    exact .operator hstart fun hc => ⟨hs (hslash hc).1, (hslash hc).2⟩
  | unknown hw hq hd ho => exact .unknown hw hq hd ho

end Lexeme

/-! ### Texts on the next line -/

/-- The kinds of the lexemes after which a text is read as at the start of a source: no
    slash, sign or increment has an operand in them. -/
def startingKinds : List Kind :=
  [.unknown, .openBrace, .closeBrace, .openParen, .openBracket, .semicolon, .comma, .colon,
    .questionMark, .binaryOperator, .unaryPrefix, .lineComment, .inlineComment]

theorem Lexeme.context_of_startingKinds (h : t.kind ∈ startingKinds) :
    regexAllowed (some t) = true ∧ t.kind ∉ signOperands ∧ t.kind ∉ incrementOperands := by
  rw [regexAllowed]
  cases hk : t.kind <;>
    first | exact absurd (hk ▸ h) (by decide) | exact ⟨rfl, by decide, by decide⟩

/-- What a text is read as at the start of a source it is read as after such a lexeme. -/
theorem Reads.in_context (h : Reads none text ts) (hk : t.kind ∈ startingKinds) :
    Reads (some t) text ts := by
  obtain ⟨hregex, hsign, hincrement⟩ := Lexeme.context_of_startingKinds hk
  cases h with
  | done hb => exact .done hb
  | @next _ u _ _ rest hb hh hr =>
    refine .next hb (hh.in_context (fun _ => hregex) (fun hf => absurd hf (by decide)) ?_) hr
    intro hkind
    have hu := (hh.operator_of_kind (by simpa using hkind)).1
    rw [← hu]
    exact Lexeme.operatorKind_eq_start (fun _ => hsign) fun _ => hincrement

/-- A lexeme that is closed, or needs no terminator, ends before a line break. -/
theorem Lexeme.Heads.before_newline (h : t.Heads previous rest)
    (hs : t.kind ≠ .string) (hi : t.kind = .inlineComment → t.isClosed) :
    t.Heads previous (rest ++ '\n' :: rest') := by
  cases rest with
  | cons c rest => exact h.congr rfl
  | nil =>
    refine h.before_blank ?_ ?_ fun hk hc => ?_
    · rintro _ ⟨⟩
      decide
    · rintro - _ ⟨⟩
      rfl
    · rcases hk with hk | hk
      · exact absurd hk hs
      · exact absurd (hi hk) (by simp [hc])

/-- The lexemes of two texts with a line feed between them are those of the one and those
    of the other, if the first text has none, or ends in one that leaves nothing open. -/
theorem lexemes_append_newline (a b : String)
    (h : ∀ t ∈ (lexemes a).getLast?,
      t.kind ∈ startingKinds ∧ (t.kind = .inlineComment → t.isClosed)) :
    lexemes (a ++ "\n" ++ b) = lexemes a ++ lexemes b := by
  have htake : (lexemes a).take (tokens a).length = lexemes a :=
    List.take_of_length_le (List.length_map ..).le
  have hbefore : lexemeBefore a (tokens a).length = (lexemes a).getLast? := by
    rw [lexemeBefore, htake]
  have hb : Reads (lexemeBefore a (tokens a).length) b.toList (lexemes b) := by
    rw [hbefore]
    cases hlast : (lexemes a).getLast? with
    | none => exact reads_lexemes b
    | some t => exact (reads_lexemes b).in_context (h t hlast).1
  have hblank : ∀ c ∈ (cursorAfter a (tokens a).length).ahead ++ ['\n'], Text.isBlank c := by
    intro c hc
    rcases List.mem_append.1 hc with hc | hc
    · exact isBlank_of_mem_ahead hc
    · rw [List.mem_singleton.1 hc]
      decide
  have hreads := reads_replaced (Nat.le_refl (tokens a).length) (fun t ht previous hh => ?_)
    (hb.blanks_append hblank)
  · have hsource : (a ++ "\n" ++ b).toList = (cursorAfter a (tokens a).length).behind.reverse ++
        ((cursorAfter a (tokens a).length).ahead ++ ['\n'] ++ b.toList) := by
      rw [String.toList_append, String.toList_append, source_cursorAfter a (tokens a).length]
      simp only [List.append_assoc]
      rfl
    rwa [lexemes_eq_iff, hsource, ← htake]
  · obtain ⟨hkind, hclosed⟩ := h t (hbefore ▸ ht)
    rw [List.append_assoc]
    refine hh.before_newline (fun hs => ?_) hclosed
    exact absurd (hs ▸ hkind) (by decide)

/-- A line comment before a text that begins with a slash and goes on with a sign. -/
theorem lexemes_append_newline_slash :
    (∀ t ∈ (lexemes "a //b").getLast?,
      t.kind ∈ startingKinds ∧ (t.kind = .inlineComment → t.isClosed)) ∧
    lexemes ("a //b" ++ "\n" ++ "/c/ +d") = lexemes "a //b" ++ lexemes "/c/ +d" := by
  have h : ∀ t ∈ (lexemes "a //b").getLast?,
      t.kind ∈ startingKinds ∧ (t.kind = .inlineComment → t.isClosed) := by
    have ht : lexemes "a //b" = [⟨.symbol, "a"⟩, ⟨.lineComment, "//b"⟩] := by decide +kernel
    rw [ht]
    decide
  exact ⟨h, lexemes_append_newline "a //b" "/c/ +d" h⟩

end ScriptLayout
