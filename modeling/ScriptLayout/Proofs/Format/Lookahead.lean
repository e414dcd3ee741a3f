import Mathlib.Data.List.Forall2
import ScriptLayout.Proofs.Layout.Placement

/-!
# Looking ahead on demand

Placing a token takes the one after it as an argument, but few rules use it, and
some only on certain lines (`asksNext`); the others place their token alike
whatever comes next (`place_of_not_asksNext`). So a layout may look ahead on
demand only, and find the kind of the token before by the link that each token
has to its predecessor (`placeNext`). It is the same layout
(`formatOnDemand_eq`):

  * `format_isOk` — every source has a layout, and in none of its runs is a
    token pending where it looks ahead;
  * `format_congr` — sources with the same kinds and texts of tokens have the
    same layout, wherever the tokens stand.
-/

namespace ScriptLayout

variable {style : Style} {st : Layout.State} {l l' : Lexer} {t : Token}

namespace Layout

/-! ### The rules that ask for the next token -/

/-- Whether the rule for a kind of token asks for the token after it, in the state
    in which the gap that the seam calls for is written. -/
def ruleAsksNext (st : State) : Kind → Bool
  | .openBrace | .closeBrace | .symbol => true
  | .closeParen => st.parens - 1 == 0 && st.line.blockHeader
  | .openBracket => st.line.objectColon
  | .semicolon => st.parens == 0
  | _ => false

/-- Whether placing a token asks for the token after it. -/
def asksNext (st : State) (t : Lexeme) : Bool :=
  match st.seam with
  | .emptyPair => true
  | .emptyItem => false
  | _ => ruleAsksNext (Draft.ofState st).state t.kind

theorem rule_of_not_ruleAsksNext {seam : Seam} {t : Lexeme} {d : Draft}
    (h : ruleAsksNext d.state t.kind = false) (next : Option Lexeme) :
    rule style seam t next d = rule style seam t none d := by
  cases hk : t.kind with
  | openBrace | closeBrace | symbol => simp [hk, ruleAsksNext] at h
  | closeParen =>
    simp only [hk, ruleAsksNext, Bool.and_eq_false_imp, beq_iff_eq] at h
    have hnext (next : Option Lexeme) : ¬ (d.state.parens - 1 = 0 ∧
        d.state.line.blockHeader = true ∧ (!nextIn next [.openBrace]) = true) :=
      fun hn => by simp [h hn.1] at hn
    simp only [rule, hk, closeParen, hnext, if_false]
  | openBracket =>
    simp only [hk, ruleAsksNext] at h
    simp only [rule, hk, openBracket, h, Bool.false_and]
  | semicolon =>
    simp only [hk, ruleAsksNext, beq_eq_false_iff_ne] at h
    simp only [rule, hk, semicolon, Nat.pos_of_ne_zero h, if_true]
  | _ => simp only [rule, hk]

/-- Where the next token is not asked for, it does not matter. -/
theorem place_of_not_asksNext {t : Lexeme} (h : asksNext st t = false) (next : Option Lexeme) :
    place style st t next = place style st t none := by
  rw [asksNext] at h
  rw [place, place]
  cases hs : st.seam with
  | emptyPair => simp [hs] at h
  | emptyItem => rfl
  | start | joined | broken | remark =>
    simp only [hs] at h
    simp only [rule_of_not_ruleAsksNext h next]

/-! ### Layouts on demand -/

/-- Delivers a token and places it. The token after it is looked at only if that
    is asked for, and the kind of the one before it is found by its link. -/
def placeNext (style : Style) (st : State) (l : Lexer) :
    Except LookaheadPending (Option (Placing × Lexer)) :=
  match l.next? with
  | none => .ok none
  | some (t, l') =>
    let st := { st with previous := t.previousKind }
    if asksNext st t.toLexeme then
      l'.peek.map fun (next, l'') =>
        some (place style st t.toLexeme (next.map Token.toLexeme), l'')
    else .ok (some (place style st t.toLexeme none, l'))

/-- Every token placed brings the end nearer. -/
theorem remaining_of_placeNext {p : Placing} (h : placeNext style st l = .ok (some (p, l'))) :
    l'.remaining < l.remaining := by
  rw [placeNext] at h
  split at h
  · exact absurd (Except.ok.inj h) (by simp)
  · next t l₁ hn =>
    have hlt := (Lexer.remaining_of_next? hn).1
    dsimp only at h
    split at h
    · cases hp : l₁.peek with
      | error fault => rw [hp] at h; cases h
      | ok result =>
        rw [hp] at h
        obtain ⟨-, rfl⟩ := Prod.mk.inj (Option.some.inj (Except.ok.inj h))
        exact Nat.lt_of_le_of_lt (Lexer.remaining_of_peek hp) hlt
    · obtain ⟨-, rfl⟩ := Prod.mk.inj (Option.some.inj (Except.ok.inj h))
      exact hlt

/-- Places the tokens that a lexer still delivers, looking ahead on demand. -/
def placingsOnDemand (style : Style) (st : State) (l : Lexer) :
    Except LookaheadPending (List Placing) :=
  match _h : placeNext style st l with
  | .error fault => .error fault
  | .ok none => .ok []
  | .ok (some (p, l')) => (placingsOnDemand style p.after l').map (p :: ·)
termination_by l.remaining
decreasing_by exact remaining_of_placeNext _h

/-- A layout from a state and a lexer comes to look ahead on the second lexer. -/
inductive PeeksAt (style : Style) : State → Lexer → Lexer → Prop
  | now {st : State} {l l' : Lexer} {t : Token} : l.next? = some (t, l') →
      asksNext { st with previous := t.previousKind } t.toLexeme → PeeksAt style st l l'
  | later {st : State} {l l' l'' : Lexer} {p : Placing} :
      placeNext style st l = .ok (some (p, l')) → PeeksAt style p.after l' l'' →
      PeeksAt style st l l''

/-- Nothing is pending where a layout looks ahead: it has just been delivered a
    token. -/
theorem PeeksAt.pending_eq_none (h : PeeksAt style st l l') : l'.pending = none := by
  induction h with
  | now hn _ => exact (Lexer.remaining_of_next? hn).2
  | later _ _ ih => exact ih

/-- The next token is linked to a token of the kind that the state takes for the
    one before it. -/
def Linked (st : State) (l : Lexer) : Prop :=
  ∀ t ∈ l.toList.head?, t.previousKind = st.previous

/-- Where no token is pending, the state has to agree with the current one. -/
theorem linked_of_pending (hp : l.pending = none)
    (h : Lexeme.kindOf (l.current.map Token.toLexeme) = st.previous) : Linked st l := by
  intro t ht
  have hn := l.next?_eq
  rw [Option.mem_def.1 ht, Option.map_some] at hn
  rw [← h, ← Lexer.previous_of_next? hp hn]
  rfl

theorem placeNext_of_toList_eq_nil (h : l.toList = []) : placeNext style st l = .ok none := by
  rw [placeNext, Lexer.next?_eq, h]
  rfl

/-- Placing the next token on demand is placing it with a look at the one after
    it, and leaves the others to come, with their links. -/
theorem placeNext_of_toList_eq_cons (style : Style) {ts : List Token} (hl : Linked st l)
    (h : l.toList = t :: ts) :
    ∃ l', placeNext style st l =
        .ok (some (place style st t.toLexeme (ts.head?.map Token.toLexeme), l')) ∧
      l'.toList = ts ∧
      Linked (place style st t.toLexeme (ts.head?.map Token.toLexeme)).after l' := by
  have hn : l.next? = some (t, l.forward 1) := by rw [Lexer.next?_eq, h]; rfl
  have hp := (Lexer.remaining_of_next? hn).2
  have hrest : (l.forward 1).toList = ts := by
    rw [Lexer.toList_of_next?_eq_some hn] at h
    exact (List.cons.inj h).2
  -- The tokens to come are linked to this one, whether one of them is pending or not.
  have hlinked (next : Option Lexeme) :
      Linked (place style st t.toLexeme next).after (l.forward 1) :=
    linked_of_pending hp (by rw [Lexer.current_of_next? hn]; rfl)
  have hst : { st with previous := t.previousKind } = st := by
    rw [hl t (by rw [h]; rfl)]
  rw [placeNext, hn]
  dsimp only
  rw [hst]
  split
  · obtain ⟨l'', hpeek, hlist⟩ := Lexer.peek_of_pending hp
    rw [hpeek, hrest]
    exact ⟨l'', rfl, hlist.trans hrest, fun t' ht' => hlinked _ t' (hlist ▸ ht')⟩
  · next hask =>
    rw [← place_of_not_asksNext (Bool.eq_false_iff.2 hask) (ts.head?.map Token.toLexeme)]
    exact ⟨l.forward 1, rfl, hrest, hlinked _⟩

theorem placingsOnDemand_of_none (h : placeNext style st l = .ok none) :
    placingsOnDemand style st l = .ok [] := by
  rw [placingsOnDemand]
  split
  · next he => exact absurd (h.symm.trans he) (by simp)
  · rfl
  · next hs => exact absurd (h.symm.trans hs) (by simp)

theorem placingsOnDemand_of_some {p : Placing} (h : placeNext style st l = .ok (some (p, l'))) :
    placingsOnDemand style st l = (placingsOnDemand style p.after l').map (p :: ·) := by
  rw [placingsOnDemand]
  split
  · next he => exact absurd (h.symm.trans he) (by simp)
  · next hn => exact absurd (h.symm.trans hn) (by simp)
  · next hs =>
    obtain ⟨rfl, rfl⟩ := Prod.mk.inj (Option.some.inj (Except.ok.inj (h.symm.trans hs)))
    rfl

/-- Looking ahead on demand places the tokens as looking ahead always does. -/
theorem placingsOnDemand_eq (hl : Linked st l) : placingsOnDemand style st l =
    .ok (placeAll style st (l.toList.map Token.toLexeme)) := by
  generalize h : l.toList = ts
  induction ts generalizing st l with
  | nil => exact placingsOnDemand_of_none (placeNext_of_toList_eq_nil h)
  | cons t ts ih =>
    obtain ⟨l', hplace, hlist, hl'⟩ := placeNext_of_toList_eq_cons style hl h
    rw [placingsOnDemand_of_some hplace, ih hl' hlist, List.map_cons, placeAll, List.head?_map]
    rfl

end Layout

/-- Lays out a source, looking ahead on demand. -/
def formatOnDemand (options : Options) (source : String) : Except LookaheadPending String :=
  (Layout.placingsOnDemand options.toStyle {} (.ofString source)).map
    (Layout.render options.indent)

/-- Looking ahead on demand makes no difference. -/
theorem formatOnDemand_eq (options : Options) (source : String) :
    formatOnDemand options source = format options source := by
  rw [format_eq, formatOnDemand, Layout.placingsOnDemand_eq (Layout.linked_of_pending rfl rfl)]
  rfl

/-! ### The results -/

/-- Every source has a layout, also when looking ahead on demand. In no layout, from
    whatever state, is a token pending where it looks at the next one, nor is one
    when that has been delivered and is handed back. -/
theorem format_isOk (options : Options) (source : String) :
    (∃ out, format options source = .ok out ∧ formatOnDemand options source = .ok out) ∧
      ∀ (style : Style) (st : Layout.State) (l l' : Lexer), Layout.PeeksAt style st l l' →
        l'.pending = none ∧ ∀ t l'', l'.next? = some (t, l'') → l''.pending = none := by
  refine ⟨⟨_, format_eq options source, ?_⟩, fun style st l l' h => ⟨h.pending_eq_none, ?_⟩⟩
  · rw [formatOnDemand_eq, format_eq]
  · exact fun t l'' hn => (Lexer.remaining_of_next? hn).2

/-- A call looks ahead from its name and from its semicolon, and not from its
    parentheses. -/
theorem format_isOk_call :
    (∃ out, format .standard "f(); //g" = .ok out ∧
        formatOnDemand .standard "f(); //g" = .ok out) ∧
      ∃ l, Layout.PeeksAt {} {} (.ofString "f(); //g") l ∧ l.current.map (·.text) = some ";" ∧
        l.pending = none ∧ ∀ t l', l.next? = some (t, l') → l'.pending = none := by
  have hpeeks : Layout.PeeksAt {} {} (.ofString "f(); //g")
      ((Lexer.ofString "f(); //g").forward 4) :=
    .later rfl (.later rfl (.later rfl (.now rfl rfl)))
  obtain ⟨hok, hpending⟩ := format_isOk .standard "f(); //g"
  exact ⟨hok, _, hpeeks, rfl, hpending _ _ _ _ hpeeks⟩

/-- Sources whose tokens agree in kind and text, one by one, have the same layout. -/
theorem format_congr (options : Options) (source source' : String)
    (h : List.Forall₂ (fun t t' : Token => t.kind = t'.kind ∧ t.text = t'.text)
      (tokens source) (tokens source')) :
    ∃ out, ∀ s ∈ [source, source'],
      format options s = .ok out ∧ formatOnDemand options s = .ok out := by
  have hlexemes : lexemes source = lexemes source' := by
    rw [lexemes, lexemes, ← List.forall₂_eq_eq_eq, List.forall₂_map_left_iff,
      List.forall₂_map_right_iff]
    exact h.imp fun _ _ h => congrArg₂ Lexeme.mk h.1 h.2
  refine ⟨_, List.forall_mem_cons.2 ⟨⟨format_eq options source, ?_⟩, ?_⟩⟩
  · rw [formatOnDemand_eq, format_eq]
  · rw [List.forall_mem_singleton, formatOnDemand_eq, format_eq, ← hlexemes]
    exact ⟨rfl, rfl⟩

/-- A label, a regular expression and an index, on one line and over several. -/
theorem format_congr_lines :
    List.Forall₂ (fun t t' : Token => t.kind = t'.kind ∧ t.text = t'.text)
        (tokens "case a?b:/c/g: x[-1]++;//d")
        (tokens " case\na\n?b\n:/c/g:\nx[\n-1\n]++\n;\t//d\n\n") ∧
      ∃ out, ∀ s ∈ ["case a?b:/c/g: x[-1]++;//d",
          " case\na\n?b\n:/c/g:\nx[\n-1\n]++\n;\t//d\n\n"],
        format .standard s = .ok out ∧ formatOnDemand .standard s = .ok out :=
  ⟨by decide +kernel, format_congr .standard _ _ (by decide +kernel)⟩

end ScriptLayout
