import Mathlib.Data.Nat.Find
import ScriptLayout.Proofs.Cursor.Position
import ScriptLayout.Proofs.Lexeme.Reading
import ScriptLayout.Proofs.Lexer.Delivery

/-!
# Tokens cover their source

Nothing of a source is lost between its tokens but blanks (`Lossless`,
`lossless`): the source consists of the tokens in their order, with blanks
before, between and after them. Each token is the piece of the source between
two cursors, the one after the blanks and the one after the token
(`tokenStart`, `tokenEnd`), and every character that is not blank lies in one
of these pieces, and in one only.
-/

namespace ScriptLayout

/-! ### Reading one token -/

namespace Cursor

variable {c c' : Cursor} {previous : Option Lexeme} {t : Token}

theorem IsCoherent.of_token? (hc : c.IsCoherent) (h : c.token? previous = some (t, c')) :
    c'.IsCoherent := by
  obtain ⟨n, rfl, -⟩ := exists_of_token? h
  exact (hc.skipWhile _).advanceBy n

theorem source_of_token? (h : c.token? previous = some (t, c')) : c'.source = c.source := by
  obtain ⟨n, rfl, -⟩ := exists_of_token? h
  rw [source_advanceBy, skipWhile, source_advanceBy]

end Cursor

/-- What reading a token keeps is kept while a lexer goes on. -/
theorem Lexer.cursor_forward {P : Cursor → Prop} {l : Lexer}
    (hstep : ∀ {c c' previous t}, P c → Cursor.token? c previous = some (t, c') → P c')
    (hp : l.pending = none) (h : P l.cursor) (n : Nat) : P (l.forward n).cursor := by
  induction n generalizing l with
  | zero => exact h
  | succ n ih =>
    cases hn : l.next? with
    | none => rwa [forward_of_next?_eq_none hn]
    | some next =>
      rw [forward_of_next?_eq_some hn]
      exact ih (remaining_of_next? hn).2 (hstep h (token?_of_next? hp hn))

/-! ### The pieces of the source -/

/-- The cursor after the first `k` tokens of a source. -/
def cursorAfter (source : String) (k : Nat) : Cursor :=
  ((Lexer.ofString source).forward k).cursor

/-- The offset at which the token with the number `k` starts, counted from zero:
    that of the cursor when it has gone over the blanks before the token. -/
def tokenStart (source : String) (k : Nat) : Nat :=
  ((cursorAfter source k).skipWhile Text.isBlank).position.offset

/-- The offset at which that token ends. -/
def tokenEnd (source : String) (k : Nat) : Nat :=
  (cursorAfter source (k + 1)).position.offset

variable {source : String} {k : Nat}

theorem isCoherent_cursorAfter (source : String) (k : Nat) : (cursorAfter source k).IsCoherent :=
  Lexer.cursor_forward .of_token? rfl (Cursor.isCoherent_ofString source) k

/-- The source is what lies behind the cursor and ahead of it. -/
theorem source_cursorAfter (source : String) (k : Nat) :
    source.toList = (cursorAfter source k).behind.reverse ++ (cursorAfter source k).ahead :=
  (Lexer.cursor_forward (P := fun c => c.source = source.toList)
    (fun h ht => (Cursor.source_of_token? ht).trans h) rfl (Cursor.source_ofString source) k).symm

/-- Reading the token with the number `k`. -/
theorem token?_cursorAfter (hk : k < (tokens source).length) :
    ∃ previous, (cursorAfter source k).token? previous =
      some ((tokens source)[k], cursorAfter source (k + 1)) :=
  ⟨_, Lexer.token?_of_next? (Lexer.pending_forward rfl k) (Lexer.next?_forward_of_lt hk)⟩

/-- The blanks before that token, or those at the end of the source. -/
def gapBefore (source : String) (k : Nat) : List Char :=
  (cursorAfter source k).ahead.takeWhile Text.isBlank

/-- What is behind the cursor when it has gone over the blanks before a token. -/
theorem tokenStart_eq (source : String) (k : Nat) : tokenStart source k =
    Text.size ((cursorAfter source k).behind.reverse ++ gapBefore source k) := by
  rw [tokenStart, ((isCoherent_cursorAfter source k).skipWhile _).offset_eq,
    Cursor.behind_skipWhile, Text.size_append, Text.size_append, Text.size_reverse,
    Text.size_reverse, Nat.add_comm, gapBefore]

theorem tokenEnd_eq (source : String) (k : Nat) :
    tokenEnd source k = Text.size (cursorAfter source (k + 1)).behind.reverse := by
  rw [tokenEnd, (isCoherent_cursorAfter source (k + 1)).offset_eq, Text.size_reverse]

/-- Behind the cursor after a token is what was behind it before, with the blanks
    and the token. -/
theorem behind_cursorAfter_succ (hk : k < (tokens source).length) :
    (cursorAfter source (k + 1)).behind.reverse = (cursorAfter source k).behind.reverse ++
      gapBefore source k ++ (tokens source)[k].text.toList := by
  obtain ⟨previous, ht⟩ := token?_cursorAfter hk
  obtain ⟨n, hcursor, htext, -⟩ := Cursor.exists_of_token? ht
  rw [hcursor, Cursor.behind_advanceBy, ← htext, Cursor.behind_skipWhile, gapBefore]
  simp

theorem text_ne_nil (hk : k < (tokens source).length) : (tokens source)[k].text.toList ≠ [] := by
  obtain ⟨previous, ht⟩ := token?_cursorAfter hk
  obtain ⟨-, -, -, hne, -⟩ := Cursor.exists_of_token? ht
  exact hne

/-- A token is the piece of the source between its start and its end. -/
theorem source_eq_of_lt (hk : k < (tokens source).length) : ∃ front back,
    source.toList = front ++ ((tokens source)[k].text.toList ++ back) ∧
      tokenStart source k = Text.size front ∧
      tokenEnd source k = Text.size (front ++ (tokens source)[k].text.toList) := by
  refine ⟨_, (cursorAfter source (k + 1)).ahead, ?_, tokenStart_eq source k, ?_⟩
  · rw [source_cursorAfter source (k + 1), behind_cursorAfter_succ hk,
      List.append_assoc _ _ (_ ++ _), List.append_assoc, List.append_assoc]
  · rw [tokenEnd_eq, behind_cursorAfter_succ hk]

/-- The cursor after a token gives the token back from the offset of its start. -/
theorem sliceFrom?_cursorAfter (hk : k < (tokens source).length) :
    (cursorAfter source (k + 1)).sliceFrom? (tokenStart source k) =
      some (tokens source)[k].text.toList := by
  obtain ⟨previous, ht⟩ := token?_cursorAfter hk
  obtain ⟨n, hcursor, htext, -⟩ := Cursor.exists_of_token? ht
  rw [hcursor, htext, tokenStart]
  exact ((isCoherent_cursorAfter source k).skipWhile _).sliceFrom?_advanceBy n

/-! ### The order of the pieces -/

theorem tokenStart_lt_tokenEnd (hk : k < (tokens source).length) :
    tokenStart source k < tokenEnd source k := by
  have hpos := List.length_pos_iff.2 (text_ne_nil hk)
  have hle := Text.length_le_size (tokens source)[k].text.toList
  rw [tokenStart_eq, tokenEnd_eq, behind_cursorAfter_succ hk, Text.size_append _ (String.toList _)]
  omega

theorem tokenEnd_le_tokenStart_succ (source : String) (k : Nat) :
    tokenEnd source k ≤ tokenStart source (k + 1) := by
  rw [tokenStart_eq, tokenEnd_eq, Text.size_append]
  exact Nat.le_add_right ..

/-- A token ends before a later one starts. -/
theorem tokenEnd_le_tokenStart {j : Nat} (hjk : j < k) (hk : k < (tokens source).length) :
    tokenEnd source j ≤ tokenStart source k := by
  induction k with
  | zero => exact absurd hjk (Nat.not_lt_zero j)
  | succ k ih =>
    refine le_trans ?_ (tokenEnd_le_tokenStart_succ source k)
    rcases Nat.lt_succ_iff_lt_or_eq.1 hjk with hjk | rfl
    · exact (ih hjk (by omega)).trans (tokenStart_lt_tokenEnd (by omega)).le
    · exact le_rfl

/-- There are no more tokens than bytes behind the cursor. -/
theorem le_offset_cursorAfter (hk : k ≤ (tokens source).length) :
    k ≤ (cursorAfter source k).position.offset := by
  induction k with
  | zero => exact Nat.zero_le _
  | succ k ih =>
    have hstart : (cursorAfter source k).position.offset ≤ tokenStart source k := by
      rw [tokenStart_eq, (isCoherent_cursorAfter source k).offset_eq, Text.size_append,
        Text.size_reverse]
      exact Nat.le_add_right ..
    calc k + 1 ≤ tokenStart source k + 1 := Nat.succ_le_succ ((ih (by omega)).trans hstart)
      _ ≤ tokenEnd source k := tokenStart_lt_tokenEnd hk

/-- After the last token only blanks are left. -/
theorem isBlank_of_mem_ahead {c : Char}
    (h : c ∈ (cursorAfter source (tokens source).length).ahead) : Text.isBlank c := by
  have hnext := Lexer.next?_forward (.ofString source) (tokens source).length
  rw [show (Lexer.ofString source).toList[(tokens source).length]? = none from
    List.getElem?_eq_none le_rfl, Lexer.next?_of_pending (Lexer.pending_forward rfl _),
    Option.map_none, Option.map_eq_none_iff] at hnext
  exact Cursor.all_isBlank_of_token? hnext c h

/-- A character that is not blank and does not lie before the end of a token does
    not lie in the gap after it either. -/
theorem tokenStart_le_of_not_isBlank {front between back : List Char} {c : Char}
    (h : source.toList = front ++ c :: back) (hc : Text.isBlank c = false)
    (hfront : front = (cursorAfter source k).behind.reverse ++ between) :
    tokenStart source k ≤ Text.size front := by
  by_contra hlt
  rw [Nat.not_le, tokenStart_eq] at hlt
  have hsource := source_cursorAfter source k
  rw [← List.takeWhile_append_dropWhile (p := Text.isBlank) (l := Cursor.ahead _),
    ← List.append_assoc] at hsource
  obtain ⟨piece, hpiece, hback⟩ := Text.exists_append_of_size_le (h.symm.trans hsource) hlt.le
  cases piece with
  | nil => exact absurd hlt (by rw [gapBefore, hpiece, List.append_nil]; exact lt_irrefl _)
  | cons d piece =>
    obtain ⟨rfl, -⟩ := List.cons.inj hback
    rw [hfront, List.append_assoc, List.append_cancel_left_eq] at hpiece
    have hmem : c ∈ (cursorAfter source k).ahead.takeWhile Text.isBlank := by
      rw [hpiece]
      exact List.mem_append_right _ List.mem_cons_self
    exact absurd (List.mem_takeWhile_imp hmem) (by simp [hc])

/-- A character that is not blank lies in a token: the first one that ends after
    it. -/
theorem exists_token_of_not_isBlank {front back : List Char} {c : Char}
    (h : source.toList = front ++ c :: back) (hc : Text.isBlank c = false) :
    ∃ k, k < (tokens source).length ∧ tokenStart source k ≤ Text.size front ∧
      Text.size front < tokenEnd source k := by
  obtain ⟨k, hk⟩ : ∃ k, k = Nat.findGreatest
    (fun k => (cursorAfter source k).position.offset ≤ Text.size front) (tokens source).length :=
    ⟨_, rfl⟩
  have hle : (cursorAfter source k).position.offset ≤ Text.size front := by
    rw [hk]
    exact Nat.findGreatest_spec (P := fun k => (cursorAfter source k).position.offset ≤ _)
      (Nat.zero_le _) (Nat.zero_le _)
  rw [(isCoherent_cursorAfter source k).offset_eq, ← Text.size_reverse] at hle
  obtain ⟨between, hfront, hahead⟩ :=
    Text.exists_append_of_size_le ((source_cursorAfter source k).symm.trans h) hle
  have hlt : k < (tokens source).length := by
    refine lt_of_le_of_ne (hk ▸ Nat.findGreatest_le _) fun heq => ?_
    have hmem : c ∈ (cursorAfter source (tokens source).length).ahead := by
      rw [← heq, hahead]
      exact List.mem_append_right _ List.mem_cons_self
    exact absurd (isBlank_of_mem_ahead hmem) (by simp [hc])
  refine ⟨k, hlt, tokenStart_le_of_not_isBlank h hc hfront, Nat.not_le.1 ?_⟩
  exact Nat.findGreatest_is_greatest (P := fun k => (cursorAfter source k).position.offset ≤ _)
    (hk.symm.trans_lt (Nat.lt_succ_self k)) hlt

/-- No two tokens have an offset in common. -/
theorem eq_of_tokenStart_le {j offset : Nat} (hj : j < (tokens source).length)
    (hk : k < (tokens source).length)
    (hjo : tokenStart source j ≤ offset ∧ offset < tokenEnd source j)
    (hko : tokenStart source k ≤ offset ∧ offset < tokenEnd source k) : j = k := by
  rcases Nat.lt_trichotomy j k with hlt | heq | hlt
  · have := tokenEnd_le_tokenStart hlt hk
    omega
  · exact heq
  · have := tokenEnd_le_tokenStart hlt hj
    omega

/-- A text consists of the lexemes that it is read as, with a gap of blanks before
    each of them and one at the end. -/
theorem Reads.exists_gaps {previous : Option Lexeme} {text : List Char} {ts : List Lexeme}
    (h : Reads previous text ts) : ∃ (gaps : List (List Char)) (last : List Char),
      gaps.length = ts.length ∧ (∀ gap ∈ last :: gaps, ∀ c ∈ gap, Text.isBlank c) ∧
        text = (List.zipWith (fun gap t => gap ++ t.text.toList) gaps ts).flatten ++ last := by
  induction h with
  | @done _ blanks hb => exact ⟨[], blanks, rfl, by simpa using hb, rfl⟩
  | @next _ t _ blanks _ hb _ _ ih =>
    obtain ⟨gaps, last, hlength, hblank, rfl⟩ := ih
    rw [List.forall_mem_cons] at hblank
    refine ⟨blanks :: gaps, last, congrArg Nat.succ hlength, ?_, ?_⟩
    · rw [List.forall_mem_cons, List.forall_mem_cons]
      exact ⟨hblank.1, hb, hblank.2⟩
    · simp

/-! ### The result -/

/-- The tokens of a source make it up, but for blanks. -/
structure Lossless (source : String) : Prop where
  /-- The source consists of its tokens in their order, with a gap of blanks
      before each of them and one at the end. -/
  exists_gaps : ∃ (gaps : List (List Char)) (last : List Char),
    gaps.length = (tokens source).length ∧ (∀ gap ∈ last :: gaps, ∀ c ∈ gap, Text.isBlank c) ∧
      source.toList =
        (List.zipWith (fun gap t => gap ++ t.text.toList) gaps (tokens source)).flatten ++ last
  /-- No token is empty. -/
  text_ne : ∀ t ∈ tokens source, t.text ≠ ""
  /-- There are no more tokens than bytes, and no token after them. -/
  length_le : (tokens source).length ≤ source.utf8ByteSize ∧
    ((Lexer.ofString source).forward (tokens source).length).next? = none
  /-- A token is the piece of the source from where it starts to where it ends,
      and what the cursor gives back that has read it. -/
  piece : ∀ (k : Nat) (hk : k < (tokens source).length), ∃ front back,
    source.toList = front ++ ((tokens source)[k].text.toList ++ back) ∧
      tokenStart source k = Text.size front ∧
      tokenEnd source k = Text.size (front ++ (tokens source)[k].text.toList) ∧
      (cursorAfter source (k + 1)).sliceFrom? (tokenStart source k) =
        some (tokens source)[k].text.toList
  /-- A character that is not blank belongs to exactly one token. -/
  existsUnique : ∀ (front back : List Char) (c : Char), source.toList = front ++ c :: back →
    Text.isBlank c = false → ∃! k, k < (tokens source).length ∧
      tokenStart source k ≤ Text.size front ∧ Text.size front < tokenEnd source k

/-- No source loses anything but blanks when it is cut into tokens. -/
theorem lossless (source : String) : Lossless source where
  exists_gaps := by
    obtain ⟨gaps, last, hlength, hblank, heq⟩ := (reads_lexemes source).exists_gaps
    rw [lexemes, List.length_map] at hlength
    rw [lexemes, List.zipWith_map_right] at heq
    exact ⟨gaps, last, hlength, hblank, heq⟩
  text_ne t ht := by
    obtain ⟨k, hk, rfl⟩ := List.getElem_of_mem ht
    exact fun h => text_ne_nil hk (by rw [h]; rfl)
  length_le := by
    refine ⟨?_, ?_⟩
    · have hle := @le_offset_cursorAfter source (tokens source).length le_rfl
      rw [(isCoherent_cursorAfter source _).offset_eq] at hle
      rw [← Text.size_toList, source_cursorAfter source (tokens source).length, Text.size_append,
        Text.size_reverse]
      omega
    · rw [Lexer.next?_forward]
      exact congrArg _ (List.getElem?_eq_none le_rfl)
  piece k hk := by
    obtain ⟨front, back, hsource, hstart, hend⟩ := source_eq_of_lt hk
    exact ⟨front, back, hsource, hstart, hend, sliceFrom?_cursorAfter hk⟩
  existsUnique front back c h hc := by
    obtain ⟨k, hk, hstart, hend⟩ := exists_token_of_not_isBlank h hc
    exact ⟨k, ⟨hk, hstart, hend⟩, fun j hj => eq_of_tokenStart_le hj.1 hk hj.2 ⟨hstart, hend⟩⟩

end ScriptLayout
