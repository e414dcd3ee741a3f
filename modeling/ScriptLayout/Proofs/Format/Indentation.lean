import ScriptLayout.Proofs.Format.Progress
import ScriptLayout.Proofs.Layout.Alignment

/-!
# Indentation

What stands before a token that is the first on its line of a formatted source:
the levels of the scopes that are open there (`depthAt`), in all but two cases
(`format_indented_iff`), where there is a level or a space too much
(`exists_not_indented`).
-/

namespace ScriptLayout

variable {previous : Option Lexeme} {text : List Char} {ts : List Lexeme} {t : Lexeme} {k : Nat}

/-- No lexeme but the last one is blank on its last line. -/
theorem Reads.endsVisibly (h : Reads previous text ts) (ht : ts[k]? = some t)
    (hk : k + 1 < ts.length) : Text.EndsVisibly t.text.toList := by
  induction h generalizing k with
  | done => exact absurd ht (by simp)
  | @next _ u ts _ rest _ hh hr ih =>
    cases k with
    | zero =>
      obtain rfl : u = t := Option.some.inj ht
      obtain ⟨t', ts, rfl⟩ := List.exists_cons_of_length_pos (Nat.lt_of_succ_lt_succ hk)
      obtain ⟨c, rest, rfl⟩ := List.exists_cons_of_ne_nil hr.text_ne_nil
      exact hh.endsVisibly
    | succ k => exact ih ht (Nat.lt_of_succ_lt_succ hk)

namespace Layout

variable {style : Style} {st : State} {layout : List Placing}

/-- The state of a layout when its first `k` tokens are placed, the first one in the
    state `st`. -/
def stateAfter (st : State) : List Placing → Nat → State
  | p :: layout, k + 1 => stateAfter p.after layout k
  | [], _ | _ :: _, 0 => st

theorem stateAfter_zero (st : State) (layout : List Placing) : stateAfter st layout 0 = st := by
  cases layout <;> rfl

theorem stateAfter_succ {p : Placing} (h : layout[k]? = some p) :
    stateAfter st layout (k + 1) = p.after := by
  induction layout generalizing st k with
  | nil => exact absurd h (by simp)
  | cons q layout ih =>
    rw [stateAfter]
    cases k with
    | zero =>
      obtain rfl : q = p := Option.some.inj h
      exact stateAfter_zero ..
    | succ k => exact ih h

/-- Every token of a layout is placed in the state that the tokens before it leave. -/
theorem getElem?_placeAll (style : Style) (st : State) (ts : List Lexeme) (k : Nat) :
    (placeAll style st ts)[k]? =
      ts[k]?.map fun t => place style (stateAfter st (placeAll style st ts) k) t ts[k + 1]? := by
  induction ts generalizing st k with
  | nil => rfl
  | cons t ts ih =>
    rw [placeAll_cons]
    cases k with
    | zero => simp [stateAfter, List.head?_eq_getElem?]
    | succ k => exact ih _ k

/-- That state fits the token and the one before it. -/
theorem fits_stateAfter (style : Style) {ts : List Lexeme} (ht : ts[k]? = some t) :
    Fits (stateAfter {} (placeAll style {} ts) k) (ts.take k).getLast? t := by
  induction k generalizing t with
  | zero =>
    rw [stateAfter_zero]
    exact .start t
  | succ k ih =>
    obtain ⟨p, hp⟩ : ∃ p, ts[k]? = some p :=
      ⟨_, List.getElem?_eq_getElem (Nat.lt_of_succ_lt (List.getElem?_eq_some_iff.1 ht).1)⟩
    have hplace := getElem?_placeAll style {} ts k
    rw [hp, ht, Option.map_some] at hplace
    rw [stateAfter_succ hplace, List.take_add_one, hp, Option.toList_some, List.getLast?_concat]
    exact fits_place style (ih hp)

theorem exists_fits (style : Style) {ts : List Lexeme} (ht : ts[k]? = some t) :
    ∃ previous, Fits (stateAfter {} (placeAll style {} ts) k) previous t ∧
      (previous = none ↔ k = 0) := by
  have hlen := (List.getElem?_eq_some_iff.1 ht).1
  refine ⟨_, fits_stateAfter style ht, ?_⟩
  rw [List.getLast?_eq_none_iff, List.take_eq_nil_iff, or_iff_left]
  exact List.ne_nil_of_length_pos (Nat.zero_lt_of_lt hlen)

end Layout

/-! ### Places in a formatted source -/

/-- The text of a formatted source before the token with the number `k`. -/
def textBefore (options : Options) (source : String) (k : Nat) : List Char :=
  let layout := Layout.placeAll options.toStyle {} (lexemes source)
  let written := Layout.writtenAfter options.indent.toList layout k
  (layout[k]?.map fun p => p.before options.indent.toList written).getD written.reverse

/-- The number of scopes that are open when the token with the number `k` is written. -/
def depthAt (options : Options) (source : String) (k : Nat) : Nat :=
  ((Layout.placeAll options.toStyle {} (lexemes source))[k]?.map
    fun p => p.state.scopes.depth).getD 0

/-- What the tokens before the one with the number `k` make of its line. -/
def draftAt (options : Options) (source : String) (k : Nat) : Layout.Draft :=
  .ofState (Layout.stateAfter {} (Layout.placeAll options.toStyle {} (lexemes source)) k)

/-- Before a token that is not the first one, something stands on the line. -/
theorem endsVisibly_writtenAfter (unit : List Char) (style : Style) {source : String}
    (hk : k + 1 < (lexemes source).length) : Text.EndsVisibly
      (Layout.writtenAfter unit (Layout.placeAll style {} (lexemes source)) (k + 1)).reverse := by
  obtain ⟨t, ht⟩ : ∃ t, (lexemes source)[k]? = some t :=
    ⟨_, List.getElem?_eq_getElem (Nat.lt_of_succ_lt hk)⟩
  obtain ⟨p, hp, htext⟩ := Layout.exists_placing style {} ht
  obtain ⟨before, hbefore⟩ : p.text.toList <:+ (Layout.writtenAfter unit _ (k + 1)).reverse :=
    Layout.text_suffix_writtenAfter hp
  rw [← hbefore, htext]
  exact ((reads_lexemes source).endsVisibly ht hk).append before

/-! ### The result -/

/-- Before a token that is the first on its line, there are as many levels as scopes are
    open, unless it is a brace that closes single statements along with its block, or a
    function after a brace that has not ended its line. -/
theorem format_indented_iff (options : Options) (source : String) {k : Nat} {t : Lexeme}
    (hn : '\n' ∉ options.indent.toList) (hne : options.indent ≠ "")
    (ht : (lexemes source)[k]? = some t) :
    (∃ rest : String, format options source =
      .ok (String.ofList (textBefore options source k ++ t.text.toList) ++ rest)) ∧
    ((∀ c ∈ Text.lastLine (textBefore options source k), Text.isBlank c) →
      (Text.lastLine (textBefore options source k) =
          Layout.levels options.indent.toList (depthAt options source k) ↔
        ¬ (draftAt options source k).Askew options.toStyle t)) := by
  have hunit : options.indent.toList ≠ [] := fun h => hne (String.toList_eq_nil_iff.1 h)
  have hplace := Layout.getElem?_placeAll options.toStyle {} (lexemes source) k
  rw [ht, Option.map_some] at hplace
  rw [textBefore, depthAt, draftAt]
  simp only [hplace, Option.map_some, Option.getD_some]
  refine ⟨?_, fun hb => ?_⟩
  · obtain ⟨rest, hrest⟩ := Layout.exists_render_eq hn options.toStyle (lexemes source) (k + 1)
    refine ⟨rest, ?_⟩
    rw [format_eq, hrest, Layout.writtenAfter_succ hplace, Layout.Placing.write,
      List.reverseAux_eq, List.reverse_append, List.reverse_reverse]
    rfl
  · obtain ⟨previous, hfits, hprev⟩ := Layout.exists_fits options.toStyle ht
    refine Layout.aligned_place_iff hn hunit options.toStyle _ hfits ?_ ?_ hb
    · intro hnone
      rw [hprev.1 hnone]
      rfl
    · intro p hp
      obtain ⟨k, rfl⟩ : ∃ k', k = k' + 1 := by
        refine Nat.exists_eq_succ_of_ne_zero fun hk => ?_
        exact absurd ((hprev.2 hk).symm.trans hp) (by simp)
      exact endsVisibly_writtenAfter _ _ (List.getElem?_eq_some_iff.1 ht).1

/-- The brace that closes the body of a label with the block of the switch. -/
theorem format_indented_iff_switch :
    '\n' ∉ Options.standard.indent.toList ∧ Options.standard.indent ≠ "" ∧
    (lexemes "switch(a){case 1:b();}")[12]? = some ⟨.closeBrace, "\x7d"⟩ ∧
    (∃ rest : String, format .standard "switch(a){case 1:b();}" =
      .ok (String.ofList (textBefore .standard "switch(a){case 1:b();}" 12 ++ "\x7d".toList) ++
        rest)) ∧
    ((∀ c ∈ Text.lastLine (textBefore .standard "switch(a){case 1:b();}" 12), Text.isBlank c) →
      (Text.lastLine (textBefore .standard "switch(a){case 1:b();}" 12) =
          Layout.levels Options.standard.indent.toList
            (depthAt .standard "switch(a){case 1:b();}" 12) ↔
        ¬ (draftAt .standard "switch(a){case 1:b();}" 12).Askew Options.standard.toStyle
            ⟨.closeBrace, "\x7d"⟩)) := by
  have hn : '\n' ∉ Options.standard.indent.toList := by decide
  have hne : Options.standard.indent ≠ "" := by decide
  have ht : (lexemes "switch(a){case 1:b();}")[12]? = some ⟨.closeBrace, "\x7d"⟩ := by
    decide +kernel
  obtain ⟨hformat, hiff⟩ := format_indented_iff .standard "switch(a){case 1:b();}" hn hne ht
  exact ⟨hn, hne, ht, hformat, hiff⟩

/-- A token that is the first on its line need not be indented for the open scopes: the
    last brace of this source closes a single statement along with its block, and is left
    a level too far in. -/
theorem exists_not_indented :
    ¬ ∀ (options : Options) (source : String) (k : Nat) (t : Lexeme),
      (∀ c ∈ options.indent.toList, Text.isBlank c) → '\n' ∉ options.indent.toList →
      options.indent ≠ "" → (lexemes source)[k]? = some t →
      (∀ c ∈ Text.lastLine (textBefore options source k), Text.isBlank c) →
        Text.lastLine (textBefore options source k) =
          Layout.levels options.indent.toList (depthAt options source k) := by
  intro h
  have ht : (lexemes "\x7bif(a)b()//c\n\x7d")[9]? = some ⟨.closeBrace, "\x7d"⟩ := by decide +kernel
  have hline : Text.lastLine (textBefore .standard "\x7bif(a)b()//c\n\x7d" 9) = "    ".toList := by
    decide +kernel
  have hdepth : depthAt .standard "\x7bif(a)b()//c\n\x7d" 9 = 0 := by decide +kernel
  have hblank : ∀ c ∈ "    ".toList, Text.isBlank c := List.all_eq_true.1 rfl
  have heq := h .standard "\x7bif(a)b()//c\n\x7d" 9 _ hblank (by decide) (by decide) ht
    (hline ▸ hblank)
  rw [hline, hdepth] at heq
  exact absurd heq (by decide +kernel)

end ScriptLayout
