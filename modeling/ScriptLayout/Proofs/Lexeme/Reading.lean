import ScriptLayout.Lexer
import ScriptLayout.Proofs.Lexeme.Extent

/-!
# Reading a text

What the lexemes of a text are, as a relation between the text and the list of
lexemes (`Reads`): blanks, a lexeme that the rest of the text starts with, and
so on, each lexeme read in view of the one before it.

  * `lexemes_eq_iff` — the lexer computes this relation, and a text is related
    to one list only (`Reads.unique`);
  * `Reads.interleaved` — a text consists of its lexemes, with blanks around
    and between them;
  * `Reads.respaced` — the blanks do not matter: closed lexemes are read from
    every text that has them in the same order, as long as none is followed by
    a character that it would take.
-/

namespace ScriptLayout

variable {previous : Option Lexeme} {t t' : Lexeme} {ts ts' : List Lexeme}
  {text rest rest' blanks : List Char}

/-- The lexeme `t` is what a text starts with that goes on with `rest` after it. -/
def Lexeme.Heads (previous : Option Lexeme) (t : Lexeme) (rest : List Char) : Prop :=
  ∃ c tail, t.text.toList = c :: tail ∧ Text.isBlank c = false ∧
    Measured previous c (tail ++ rest) (t.kind, tail.length + 1)

/-- Whether the lexeme ends with its terminator, if it is to have one. -/
def Lexeme.isClosed (t : Lexeme) : Bool :=
  closes t.kind t.text.toList

/-- The text is read as the given lexemes, the first one after `previous`. -/
inductive Reads : Option Lexeme → List Char → List Lexeme → Prop
  | done {previous : Option Lexeme} {blanks : List Char} : (∀ c ∈ blanks, Text.isBlank c) →
      Reads previous blanks []
  | next {previous : Option Lexeme} {t : Lexeme} {ts : List Lexeme} {blanks rest : List Char} :
      (∀ c ∈ blanks, Text.isBlank c) → t.Heads previous rest → Reads (some t) rest ts →
      Reads previous (blanks ++ (t.text.toList ++ rest)) (t :: ts)

/-! ### Blanks before a lexeme -/

/-- A lexeme is not blank at its start. -/
theorem Lexeme.Heads.dropWhile_eq (h : t.Heads previous rest)
    (hb : ∀ c ∈ blanks, Text.isBlank c) :
    (blanks ++ (t.text.toList ++ rest')).dropWhile Text.isBlank = t.text.toList ++ rest' := by
  obtain ⟨c, tail, ht, hc, -⟩ := h
  rw [List.dropWhile_append_of_pos hb, ht, List.cons_append, List.dropWhile_cons, if_neg]
  rw [hc]
  exact Bool.false_ne_true

theorem Lexeme.Heads.not_all_blank (h : t.Heads previous rest) :
    ¬ ∀ c ∈ blanks ++ (t.text.toList ++ rest'), Text.isBlank c := by
  obtain ⟨c, tail, ht, hc, -⟩ := h
  intro hall
  have := hall c (by simp [ht])
  simp [hc] at this

theorem Reads.text_ne_nil (h : Reads previous text (t :: ts)) : text ≠ [] := by
  cases h with
  | next _ hh =>
    obtain ⟨c, tail, ht, -⟩ := hh
    simp [ht]

/-- More blanks may come before the first lexeme. -/
theorem Reads.blanks_append (h : Reads previous text ts) (hb : ∀ c ∈ blanks, Text.isBlank c) :
    Reads previous (blanks ++ text) ts := by
  cases h with
  | done hb' => exact .done fun c hc => (List.mem_append.1 hc).elim (hb c) (hb' c)
  | next hb' hh hr =>
    rw [← List.append_assoc]
    exact .next (fun c hc => (List.mem_append.1 hc).elim (hb c) (hb' c)) hh hr

/-! ### One reading only -/

/-- A text starts with one lexeme only. -/
theorem Lexeme.Heads.unique (h : t.Heads previous rest) (h' : t'.Heads previous rest')
    (heq : t.text.toList ++ rest = t'.text.toList ++ rest') : t = t' ∧ rest = rest' := by
  obtain ⟨c, tail, ht, -, hm⟩ := h
  obtain ⟨c', tail', ht', -, hm'⟩ := h'
  rw [ht, ht', List.cons_append, List.cons_append] at heq
  obtain ⟨rfl, htail⟩ := List.cons.inj heq
  rw [htail] at hm
  obtain ⟨hkind, hlen⟩ := Prod.mk.inj (hm.unique hm')
  obtain ⟨rfl, hrest⟩ := List.append_inj htail (Nat.succ.inj hlen)
  refine ⟨?_, hrest⟩
  have htext : t.text = t'.text := String.toList_injective (ht.trans ht'.symm)
  cases t
  cases t'
  exact congrArg₂ Lexeme.mk hkind htext

/-- A text is read in one way only. -/
theorem Reads.unique (h : Reads previous text ts) (h' : Reads previous text ts') : ts = ts' := by
  induction h generalizing ts' with
  | done hb =>
    cases h' with
    | done => rfl
    | next _ hh => exact absurd hb hh.not_all_blank
  | @next previous t ts blanks rest hb hh _ ih =>
    obtain ⟨whole, hw⟩ : ∃ whole, whole = blanks ++ (t.text.toList ++ rest) := ⟨_, rfl⟩
    rw [← hw] at h'
    cases h' with
    | done hb' => exact absurd (hw ▸ hb') hh.not_all_blank
    | next hb' hh' hr' =>
      have heq := congrArg (List.dropWhile Text.isBlank) hw
      rw [hh.dropWhile_eq hb, hh'.dropWhile_eq hb'] at heq
      obtain ⟨rfl, rfl⟩ := hh'.unique hh heq
      rw [ih hr']

/-! ### The lexer reads -/

theorem Cursor.all_isBlank_of_token? {c : Cursor} (h : c.token? previous = none) :
    ∀ x ∈ c.ahead, Text.isBlank x := by
  simp only [token?] at h
  split at h
  · next hs => rwa [ahead_skipWhile, List.dropWhile_eq_nil_iff] at hs
  · exact absurd h (by simp)

/-- Reading a token goes over blanks and over the lexeme that comes then. -/
theorem Cursor.ahead_of_token? {c c' : Cursor} {t : Token} (h : c.token? previous = some (t, c')) :
    t.toLexeme.Heads previous c'.ahead ∧ ∃ blanks, (∀ x ∈ blanks, Text.isBlank x) ∧
      c.ahead = blanks ++ (t.text.toList ++ c'.ahead) := by
  simp only [token?] at h
  split at h
  · exact absurd h (by simp)
  · next x rest hs =>
    obtain ⟨rfl, rfl⟩ := Prod.mk.inj (Option.some.inj h)
    obtain ⟨n, hn⟩ := Nat.exists_eq_succ_of_ne_zero
      (Nat.ne_of_gt (Lexeme.measure_pos previous x rest))
    have hle := Lexeme.measure_le previous x rest
    rw [hn] at hle
    have htail : (rest.take n).length = n := List.length_take_of_le (Nat.le_of_succ_le_succ hle)
    rw [ahead_advanceBy, hs, hn]
    refine ⟨⟨x, rest.take n, ?_, ?_, ?_⟩, c.ahead.takeWhile Text.isBlank,
      fun y hy => List.mem_takeWhile_imp hy, ?_⟩
    · rw [String.toList_ofList, List.take_succ_cons]
    · rw [ahead_skipWhile] at hs
      have := List.head_dropWhile_not Text.isBlank (by rw [hs]; exact List.cons_ne_nil x rest)
      simpa only [hs, List.head_cons] using this
    · rw [List.drop_succ_cons, List.take_append_drop, htail]
      refine Lexeme.measured_iff.2 (Prod.ext rfl ?_)
      exact hn
    · rw [String.toList_ofList, List.take_append_drop, ← hs, ahead_skipWhile,
        List.takeWhile_append_dropWhile]

theorem Lexer.next?_of_pending {l : Lexer} (h : l.pending = none) :
    l.next? = (l.cursor.token? (l.current.map Token.toLexeme)).map
      fun (t, cursor) => (t, ⟨cursor, some t, none⟩) := by
  simp only [next?, h]
  cases l.cursor.token? (l.current.map Token.toLexeme) <;> rfl

/-- The tokens that a lexer still delivers are read from the text ahead. -/
theorem Lexer.reads (l : Lexer) (h : l.pending = none) :
    Reads (l.current.map Token.toLexeme) l.cursor.ahead (l.toList.map Token.toLexeme) := by
  induction hn : l.remaining using Nat.strongRecOn generalizing l with
  | ind n ih =>
    rw [toList]
    split
    · next hnone =>
      rw [next?_of_pending h, Option.map_eq_none_iff] at hnone
      exact .done (Cursor.all_isBlank_of_token? hnone)
    · next t l' hsome =>
      have hrem := remaining_of_next? hsome
      rw [next?_of_pending h, Option.map_eq_some_iff] at hsome
      obtain ⟨⟨t, cursor⟩, htoken, hnext⟩ := hsome
      obtain ⟨rfl, rfl⟩ := Prod.mk.inj hnext
      obtain ⟨hh, blanks, hb, heq⟩ := Cursor.ahead_of_token? htoken
      rw [heq]
      exact .next hb hh (ih _ (hn ▸ hrem.1) _ hrem.2 rfl)

/-- The lexemes of a source are those that it is read as. -/
theorem reads_lexemes (source : String) : Reads none source.toList (lexemes source) :=
  (Lexer.ofString source).reads rfl

theorem lexemes_eq_iff {source : String} : lexemes source = ts ↔ Reads none source.toList ts :=
  ⟨fun h => h ▸ reads_lexemes source, (reads_lexemes source).unique⟩

/-! ### Other blanks -/

/-- The text consists of the lexemes in their order, and of a piece of text
    between any two of them that is a gap there. -/
inductive Interleaved (gap : Lexeme → Lexeme → List Char → Prop) : List Lexeme → List Char → Prop
  | none : Interleaved gap [] []
  | last (t : Lexeme) : Interleaved gap [t] t.text.toList
  | next {t t' : Lexeme} {ts : List Lexeme} {between rest : List Char} : gap t t' between →
      Interleaved gap (t' :: ts) rest →
      Interleaved gap (t :: t' :: ts) (t.text.toList ++ (between ++ rest))

variable {gap gap' : Lexeme → Lexeme → List Char → Prop}

theorem Interleaved.mono (hg : ∀ t t' between, gap t t' between → gap' t t' between)
    (h : Interleaved gap ts text) : Interleaved gap' ts text := by
  induction h with
  | none => exact .none
  | last t => exact .last t
  | next h _ ih => exact .next (hg _ _ _ h) ih

/-- A text that begins with a lexeme begins as the lexeme does. -/
theorem Interleaved.exists_append (h : Interleaved gap (t :: ts) text) :
    ∃ rest, text = t.text.toList ++ rest := by
  cases h with
  | last => exact ⟨[], (List.append_nil _).symm⟩
  | next => exact ⟨_, rfl⟩

/-- A text consists of its lexemes, with blanks around and between them. -/
theorem Reads.interleaved (h : Reads previous text ts) : ∃ before body after,
    text = before ++ (body ++ after) ∧ (∀ c ∈ before ++ after, Text.isBlank c) ∧
      Interleaved (fun _ _ between => ∀ c ∈ between, Text.isBlank c) ts body := by
  induction h with
  | @done _ blanks hb => exact ⟨blanks, [], [], by simp, by simpa using hb, .none⟩
  | @next previous t ts blanks rest hb _ hr ih =>
    obtain ⟨before, body, after, rfl, hba, hi⟩ := ih
    cases ts with
    | nil =>
      cases hi
      refine ⟨blanks, t.text.toList, before ++ after, by simp, fun c hc => ?_, .last t⟩
      exact (List.mem_append.1 hc).elim (hb c) (hba c)
    | cons t' ts =>
      refine ⟨blanks, t.text.toList ++ (before ++ body), after, by simp, fun c hc => ?_, ?_⟩
      · exact (List.mem_append.1 hc).elim (hb c) fun h => hba c (List.mem_append_right _ h)
      · exact .next (fun c hc => hba c (List.mem_append_left _ hc)) hi

/-- A gap that keeps two lexemes apart: it is blank, and the first of them takes
    neither its first character nor, when it is empty, that of the second. -/
def Lexeme.Separates (t t' : Lexeme) (between : List Char) : Prop :=
  (∀ c ∈ between, Text.isBlank c) ∧
    ∀ c ∈ (between ++ t'.text.toList).head?, takes t.kind t.text.toList c = false

/-- Closed lexemes before the same text as ever, or before one that begins with
    no character that they take. -/
theorem Lexeme.Heads.append (h : t.Heads previous rest) (hc : t.isClosed)
    (hr : ∀ c ∈ rest'.head?, takes t.kind t.text.toList c = false) : t.Heads previous rest' := by
  obtain ⟨c, tail, ht, hb, hm⟩ := h
  rw [isClosed, ht] at hc
  rw [ht] at hr
  exact ⟨c, tail, ht, hb, hm.append hc hr⟩

/-- Closed lexemes are read from every text that keeps them apart. -/
theorem Reads.respaced (h : Reads previous text ts) (hc : ∀ t ∈ ts, t.isClosed)
    {body after : List Char} (hi : Interleaved Lexeme.Separates ts body)
    (hb : ∀ c ∈ after, Text.isBlank c)
    (ha : ∀ t ∈ ts, ∀ c ∈ after.head?, Lexeme.takes t.kind t.text.toList c = false) :
    Reads previous (body ++ after) ts := by
  -- The blanks before the first lexeme come with the gap after the one before it.
  suffices h : ∀ blanks : List Char, (∀ c ∈ blanks, Text.isBlank c) →
      Reads previous (blanks ++ (body ++ after)) ts by simpa using h [] (by simp)
  induction h generalizing body with
  | done =>
    cases hi
    exact fun blanks hbl => .done fun c hc => (List.mem_append.1 hc).elim (hbl c) (hb c)
  | @next previous t ts _ rest _ hh hr ih =>
    intro blanks hbl
    rw [List.forall_mem_cons] at hc ha
    cases hi with
    | last =>
      refine .next hbl (hh.append hc.1 ha.1) ?_
      simpa using ih hc.2 .none ha.2 [] (by simp)
    | @next _ t' ts between rest' hs hi =>
      rw [List.append_assoc, List.append_assoc]
      refine .next hbl (hh.append hc.1 fun c hcr => hs.2 c ?_) (ih hc.2 hi ha.2 between hs.1)
      obtain ⟨follow, rfl⟩ := hi.exists_append
      obtain ⟨d, tail, ht⟩ : ∃ d tail, t'.text.toList = d :: tail := by
        cases hr with
        | next _ hh' => exact hh'.imp fun d h => h.imp fun tail h => h.1
      rw [ht] at hcr ⊢
      cases between <;> exact hcr

end ScriptLayout
