import ScriptLayout.Proofs.Lexeme.Boundary

/-!
# Other blanks between the same tokens

The blanks of a source do not matter to its tokens. A source is taken apart into
its lexemes and the gaps around them (`spaced`); whatever other gaps are put in
(`Respacing`), the same lexemes are read again (`lexemes_spaced`). A gap may come
up where there was none, so that two lexemes that touched stand apart; it may not
go where there was one.

The lexemes need not be closed, so that some of them go on into the blanks after
them, unless these begin with a line break, or are none.
-/

namespace ScriptLayout

variable {previous : Option Lexeme} {ts : List Lexeme} {gaps gaps' : Nat → List Char}

/-- The text of some lexemes with gaps around them: `gaps i` comes before the lexeme
    with the number `i`, counted from zero, and `gaps ts.length` after the last one. -/
def spaced (gaps : Nat → List Char) : List Lexeme → List Char
  | [] => gaps 0
  | t :: ts => gaps 0 ++ (t.text.toList ++ spaced (fun i => gaps (i + 1)) ts)

/-- Gaps that some lexemes may have in place of others. -/
structure Respacing (ts : List Lexeme) (gaps gaps' : Nat → List Char) : Prop where
  /-- The new gaps are blank. -/
  blank : ∀ i ≤ ts.length, ∀ c ∈ gaps' i, Text.isBlank c
  /-- Between two lexemes, no gap goes. -/
  keeps : ∀ i < ts.length, 0 < i → gaps' i = [] → gaps i = []
  /-- What ends with its line has the end of the line after it, if any blank. -/
  endsLine : ∀ i < ts.length, ∀ t ∈ ts[i]?,
    t.kind = .lineComment ∨ t.kind = .regex ∧ t.isClosed = false →
      ∀ c ∈ (gaps' (i + 1)).head?, Lexeme.isLineBreak c
  /-- What ends with the text has nothing after it. -/
  endsText : ∀ t ∈ ts.getLast?, t.kind = .string ∨ t.kind = .inlineComment →
    t.isClosed = false → gaps' ts.length = []

/-- The gaps after the first lexeme. -/
theorem Respacing.tail {t : Lexeme} (h : Respacing (t :: ts) gaps gaps') :
    Respacing ts (fun i => gaps (i + 1)) fun i => gaps' (i + 1) where
  blank i hi := h.blank (i + 1) (Nat.succ_le_succ hi)
  keeps i hi _ := h.keeps (i + 1) (Nat.succ_lt_succ hi) i.succ_pos
  endsLine i hi := h.endsLine (i + 1) (Nat.succ_lt_succ hi)
  endsText t' ht' := h.endsText t' (by
    cases ts with
    | nil => exact absurd ht' (by simp)
    | cons => exact ht')

/-- A lexeme is read before the new gap and the lexemes to come as it was before the
    old ones. -/
theorem Respacing.heads {t : Lexeme} (h : Respacing (t :: ts) gaps gaps')
    (hb : ∀ c ∈ gaps 1, Text.isBlank c)
    (hh : t.Heads previous (spaced (fun i => gaps (i + 1)) ts))
    (hr : Reads (some t) (spaced (fun i => gaps (i + 1)) ts) ts) :
    t.Heads previous (spaced (fun i => gaps' (i + 1)) ts) := by
  have hblank : ∀ c ∈ gaps' 1, Text.isBlank c := h.blank 1 (Nat.succ_pos _)
  have hline := h.endsLine 0 (Nat.succ_pos _) t rfl
  cases ts with
  | nil =>
    exact hh.before_blank (fun c hc => hblank c (List.mem_of_mem_head? hc)) hline
      (h.endsText t rfl)
  | cons t' ts =>
    obtain ⟨⟨c, tail, ht', -⟩, -⟩ := hr.of_next hb
    by_cases hgap : gaps' 1 = []
    · -- What comes next is the same lexeme as before.
      refine hh.congr ?_
      simp [spaced, hgap, h.keeps 1 (Nat.succ_lt_succ (Nat.succ_pos _)) Nat.one_pos hgap, ht']
    · have hhead : (spaced (fun i => gaps' (i + 1)) (t' :: ts)).head? = (gaps' 1).head? :=
        List.head?_append_of_ne_nil _ hgap
      refine hh.before_blank ?_ ?_ fun hk hc => ?_
      · exact fun c hc => hblank c (List.mem_of_mem_head? (hhead ▸ hc))
      · rwa [hhead]
      · -- What is not closed is not followed by another lexeme.
        have hnil := hh.eq_nil hk hc
        simp [spaced, ht'] at hnil

/-- The lexemes that a text is read as are read from it with other gaps, too. -/
theorem Reads.of_respacing (h : Reads previous (spaced gaps ts) ts)
    (hb : ∀ i ≤ ts.length, ∀ c ∈ gaps i, Text.isBlank c) (hr : Respacing ts gaps gaps') :
    Reads previous (spaced gaps' ts) ts := by
  induction ts generalizing previous gaps gaps' with
  | nil => exact .done (hr.blank 0 le_rfl)
  | cons t ts ih =>
    obtain ⟨hh, hrest⟩ := h.of_next (hb 0 (Nat.zero_le _))
    have hnew : t.Heads previous (spaced (fun i => gaps' (i + 1)) ts) :=
      hr.heads (hb 1 (Nat.succ_pos _)) hh hrest
    refine .next (hr.blank 0 (Nat.zero_le _)) hnew (ih hrest ?_ hr.tail)
    exact fun i hi => hb (i + 1) (Nat.succ_le_succ hi)

/-! ### The result -/

/-- A source and another text with the same lexemes and other gaps between them: the
    lexemes of the source are also those of the text. -/
theorem lexemes_spaced (source source' : String) (gaps gaps' : Nat → List Char)
    (hs : source.toList = spaced gaps (lexemes source))
    (hb : ∀ i ≤ (lexemes source).length, ∀ c ∈ gaps i, Text.isBlank c)
    (hr : Respacing (lexemes source) gaps gaps')
    (hs' : source'.toList = spaced gaps' (lexemes source)) :
    lexemes source' = lexemes source := by
  have hreads := reads_lexemes source
  rw [hs] at hreads
  rw [lexemes_eq_iff, hs']
  exact hreads.of_respacing hb hr

/-- Two numbers, a slash that divides, a comment and a regular expression that is not
    closed, with gaps where there were none. -/
theorem lexemes_spaced_regex : ∃ gaps gaps' : Nat → List Char,
    "08/x//y\n/[z".toList = spaced gaps (lexemes "08/x//y\n/[z") ∧
      (∀ i ≤ (lexemes "08/x//y\n/[z").length, ∀ c ∈ gaps i, Text.isBlank c) ∧
      Respacing (lexemes "08/x//y\n/[z") gaps gaps' ∧
      "0 8\t/x\u2028//y\r\n /[z\n".toList = spaced gaps' (lexemes "08/x//y\n/[z") ∧
      lexemes "0 8\t/x\u2028//y\r\n /[z\n" = lexemes "08/x//y\n/[z" := by
  let gaps (i : Nat) : List Char := if i = 5 then ['\n'] else []
  let gaps' : Nat → List Char
    | 1 => [' ']
    | 2 => ['\t']
    | 4 => ['\u2028']
    | 5 => ['\r', '\n', ' ']
    | 6 => ['\n']
    | _ => []
  have hlexemes : lexemes "08/x//y\n/[z" = [⟨.number, "0"⟩, ⟨.number, "8"⟩,
      ⟨.binaryOperator, "/"⟩, ⟨.symbol, "x"⟩, ⟨.lineComment, "//y"⟩, ⟨.regex, "/[z"⟩] := by
    decide +kernel
  have hs : "08/x//y\n/[z".toList = spaced gaps (lexemes "08/x//y\n/[z") := by
    rw [hlexemes]
    decide
  have hb : ∀ i ≤ (lexemes "08/x//y\n/[z").length, ∀ c ∈ gaps i, Text.isBlank c := by
    have hall : ∀ i ≤ 6, (gaps i).all Text.isBlank := by decide
    rw [hlexemes]
    exact fun i hi => List.all_eq_true.1 (hall i hi)
  have hr : Respacing (lexemes "08/x//y\n/[z") gaps gaps' := by
    have hall : ∀ i ≤ 6, (gaps' i).all Text.isBlank := by decide
    have hline : ∀ i < 6, i = 4 ∨ i = 5 → (gaps' (i + 1)).head?.all Lexeme.isLineBreak := by
      decide
    have hkind : ∀ i < 6, ∀ t ∈ (lexemes "08/x//y\n/[z")[i]?,
        t.kind = .lineComment ∨ t.kind = .regex ∧ t.isClosed = false → i = 4 ∨ i = 5 := by
      rw [hlexemes]
      decide
    rw [hlexemes] at hkind ⊢
    refine ⟨fun i hi => List.all_eq_true.1 (hall i hi), by decide, fun i hi t ht hk => ?_,
      by decide⟩
    exact (Option.all_eq_true _ _).1 (hline i hi (hkind i hi t ht hk))
  have hs' : "0 8\t/x\u2028//y\r\n /[z\n".toList =
      spaced gaps' (lexemes "08/x//y\n/[z") := by
    rw [hlexemes]
    decide
  exact ⟨gaps, gaps', hs, hb, hr, hs', lexemes_spaced _ _ gaps gaps' hs hb hr hs'⟩

end ScriptLayout
