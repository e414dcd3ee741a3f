import ScriptLayout.Proofs.Lexeme.Boundary
import ScriptLayout.Proofs.Text.Lines

/-!
# The last line of a lexeme

Strings and inline comments may go over several lines, and no other lexemes do
(`Lexeme.Heads.newline_notMem`). Where one of them is closed, it ends with its
terminator. So a lexeme that something follows is not blank on the last line it
stands on (`Lexeme.Heads.endsVisibly`).
-/

namespace ScriptLayout

variable {text rest : List Char} {c : Char}

namespace Lexeme

variable {previous : Option Lexeme} {t : Lexeme}

/-! ### Terminators -/

/-- A closed string ends with its quote. -/
theorem getLast?_of_quoteCloses {quote : Char} (hc : quoteCloses quote text)
    (h : closingExtent quote (text ++ rest) = text.length) : text.getLast? = some quote := by
  rw [closingExtent_append hc] at h
  fun_induction quoteCloses quote text with
  | case1 => exact absurd hc Bool.false_ne_true
  | case2 c => rw [beq_iff_eq.1 hc, List.getLast?_singleton]
  | case3 d text => simp [closingExtent] at h
  | case4 d text hq ih =>
    rw [closingExtent_backslash hq, List.length_cons, List.length_cons] at h
    obtain ⟨before, rfl⟩ := List.getLast?_eq_some_iff.1 (ih hc (by omega))
    exact List.getLast?_eq_some_iff.2 ⟨'\\' :: d :: before, rfl⟩
  | case5 c d text hq hb ih =>
    rw [closingExtent_cons hq hb, List.length_cons] at h
    obtain ⟨before, hbefore⟩ := List.getLast?_eq_some_iff.1 (ih hc (by omega))
    exact List.getLast?_eq_some_iff.2 ⟨c :: before, by rw [hbefore]; rfl⟩

/-- A closed inline comment ends with a slash. -/
theorem getLast?_of_commentCloses (hc : commentCloses text)
    (h : inlineCommentExtent (text ++ rest) = text.length + 2) : text.getLast? = some '/' := by
  obtain ⟨n, hn⟩ := Option.isSome_iff_exists.1 hc
  rw [inlineCommentExtent, Text.find?_append hn] at h
  obtain ⟨follow, hf⟩ := Text.prefix_drop_of_find? hn
  have hlen := congrArg List.length hf
  rw [List.length_append, List.length_drop] at hlen
  obtain rfl : follow = [] := List.eq_nil_of_length_eq_zero (by simp at h hlen; omega)
  refine List.getLast?_eq_some_iff.2 ⟨text.take n ++ ['*'], ?_⟩
  calc text = text.take n ++ text.drop n := (List.take_append_drop n text).symm
    _ = text.take n ++ ['*'] ++ ['/'] := by rw [← hf]; simp

/-! ### Lexemes on one line -/

/-- A text starts with a lexeme, unless it begins with a blank. -/
theorem exists_heads (previous : Option Lexeme) (hc : Text.isBlank c = false)
    (text : List Char) : ∃ (t : Lexeme) (rest : List Char),
      c :: text = t.text.toList ++ rest ∧ t.Heads previous rest := by
  obtain ⟨n, hn⟩ := Nat.exists_eq_succ_of_ne_zero (Nat.ne_of_gt (measure_pos previous c text))
  have hle := measure_le previous c text
  have hlen : (text.take n).length = n := List.length_take_of_le (by omega)
  refine ⟨⟨(measure previous c text).1, String.ofList (c :: text.take n)⟩, text.drop n, ?_,
    c, text.take n, String.toList_ofList, hc, ?_⟩
  · rw [String.toList_ofList, List.cons_append, List.take_append_drop]
  · rw [List.take_append_drop, hlen, measured_iff]
    exact Prod.ext rfl hn

/-- A string begins with a quote, and an inline comment with a slash and a star. -/
theorem Measured.delimited_start {kind : Kind} {n : Nat} (h : Measured previous c rest (kind, n))
    (hk : kind = .string ∨ kind = .inlineComment) :
    kind = .string ∧ isQuote c ∨
      kind = .inlineComment ∧ 1 < n ∧ c = '/' ∧ rest.head? = some '*' := by
  rcases hk with rfl | rfl
  · exact .inl ⟨rfl, h.startsAs⟩
  · obtain ⟨rfl, hstar⟩ : StartsAs previous c rest .inlineComment := h.startsAs
    obtain ⟨rest, rfl⟩ := List.head?_eq_some_iff.1 hstar
    obtain ⟨-, rfl⟩ := Prod.mk.inj (h.unique .inlineComment)
    exact .inr ⟨rfl, two_le_inlineCommentExtent rest, rfl, hstar⟩

/-- What begins as a string or an inline comment is one. -/
theorem Heads.kind_of_prefix {u : Lexeme} {rest' : List Char} (h : t.Heads previous rest)
    (hu : u.Heads previous rest') (hp : u.text.toList <+: t.text.toList)
    (hk : u.kind = .string ∨ u.kind = .inlineComment) : t.kind = u.kind := by
  obtain ⟨c, tail, ht, -, hm⟩ := h
  obtain ⟨d, start, hstart, -, hmu⟩ := hu
  rw [ht, hstart] at hp
  obtain ⟨rfl, follow, rfl⟩ := List.cons_prefix_cons.1 hp
  rcases hmu.delimited_start hk with ⟨hku, hq⟩ | ⟨hku, hlen, rfl, hstar⟩
  · rw [hku]
    exact (Prod.mk.inj (hm.unique (.string hq))).1
  · cases start with
    | nil => exact absurd hlen (lt_irrefl 1)
    | cons e start =>
      obtain rfl : e = '*' := Option.some.inj hstar
      rw [hku]
      exact (Prod.mk.inj (hm.unique .inlineComment)).1

/-- Only strings and inline comments go over line breaks. -/
theorem Heads.newline_notMem (h : t.Heads previous rest) (hs : t.kind ≠ .string)
    (hi : t.kind ≠ .inlineComment) : '\n' ∉ t.text.toList := by
  intro hn
  obtain ⟨before, after, ht⟩ := List.append_of_mem hn
  obtain ⟨c, before, rfl, hc⟩ : ∃ c before', before = c :: before' ∧ Text.isBlank c = false := by
    obtain ⟨c, tail, hct, hc, -⟩ := id h
    rw [hct] at ht
    cases before with
    | nil => exact absurd hc (by rw [(List.cons.inj ht).1]; decide)
    | cons d before => exact ⟨d, before, rfl, (List.cons.inj ht).1 ▸ hc⟩
  -- The lexeme that the text up to the line break starts with is what the text does.
  obtain ⟨u, follow, hu, hheads⟩ := exists_heads previous hc before
  have hp : u.text.toList <+: t.text.toList := by
    rw [ht, hu, List.append_assoc]
    exact List.prefix_append ..
  have hlonger : u.Heads previous (follow ++ ('\n' :: (after ++ rest))) := by
    cases follow with
    | cons d follow => exact hheads.congr rfl
    | nil =>
      refine hheads.before_blank ?_ ?_ fun hk => ?_
      · rintro _ ⟨⟩
        decide
      · rintro - _ ⟨⟩
        rfl
      · have hkind := h.kind_of_prefix hheads hp hk
        rcases hk with hk | hk
        · exact absurd (hkind.trans hk) hs
        · exact absurd (hkind.trans hk) hi
  obtain ⟨rfl, hrest⟩ := h.unique hlonger (by rw [ht, hu]; simp)
  have hlen := congrArg List.length hrest
  rw [List.length_append, List.length_cons, List.length_append] at hlen
  omega

/-- A string or an inline comment that something follows ends with its terminator. -/
theorem Heads.exists_terminator (h : t.Heads previous (c :: rest))
    (hk : t.kind = .string ∨ t.kind = .inlineComment) :
    ∃ d, t.text.toList.getLast? = some d ∧ Text.isBlank d = false := by
  have hclosed : t.isClosed := by
    by_contra hc
    exact absurd (h.eq_nil hk (by simpa using hc)) (List.cons_ne_nil c rest)
  obtain ⟨d, tail, ht, hd, hm⟩ := h
  rw [isClosed, ht] at hclosed
  rw [ht]
  rcases hm.delimited_start hk with ⟨hkind, hq⟩ | ⟨hkind, hlen, rfl, hstar⟩
  · have hext := (Prod.mk.inj (hm.unique (.string hq))).2
    rw [stringExtent, Nat.add_comm] at hext
    rw [hkind] at hclosed
    refine ⟨d, ?_, hd⟩
    rw [List.getLast?_cons, getLast?_of_quoteCloses hclosed (Nat.add_left_cancel hext).symm]
    rfl
  · cases tail with
    | nil => exact absurd hlen (lt_irrefl 1)
    | cons e body =>
      obtain rfl : e = '*' := Option.some.inj hstar
      have hext := (Prod.mk.inj (hm.unique .inlineComment)).2
      rw [hkind] at hclosed
      refine ⟨'/', ?_, by decide⟩
      rw [List.getLast?_cons, List.getLast?_cons, getLast?_of_commentCloses hclosed hext.symm]
      rfl

/-- A lexeme that something follows is not blank on its last line. -/
theorem Heads.endsVisibly (h : t.Heads previous (c :: rest)) : Text.EndsVisibly t.text.toList := by
  by_cases hk : t.kind = .string ∨ t.kind = .inlineComment
  · obtain ⟨d, hlast, hd⟩ := h.exists_terminator hk
    exact Text.endsVisibly_of_getLast? hlast hd
  · obtain ⟨d, tail, ht, hd, -⟩ := id h
    have hn := h.newline_notMem (fun hs => hk (.inl hs)) fun hi => hk (.inr hi)
    rw [ht] at hn ⊢
    exact Text.endsVisibly_cons hd hn

end Lexeme

end ScriptLayout
