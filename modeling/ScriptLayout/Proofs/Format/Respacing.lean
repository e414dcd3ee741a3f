import ScriptLayout.Proofs.Layout.Gap
import ScriptLayout.Proofs.Layout.Placement

/-!
# Formatting changes blanks only

A formatted source consists of the lexemes of the source in their order, with
blanks between them and a line break at the end (`format_interleaves`). It is
read as the same lexemes again, unless two neighbours fuse that the layout
leaves nothing between (`lexemes_format_iff`); then formatting it again changes
nothing (`format_format`).

All of this is for units of indentation that are blank and have no line break in
them; other units can be read as lexemes, or taken back for a level in the
middle of a text.
-/

namespace ScriptLayout

variable {unit : List Char} {st : Layout.State} {previous : Option Lexeme}
  {t : Lexeme} {ts : List Lexeme}

namespace Layout

/-- The gap between two tokens in the text of a layout. -/
structure Spacing (t t' : Lexeme) (between : List Char) : Prop where
  /-- The gap is blank. -/
  blank : ∀ c ∈ between, Text.isBlank c
  /-- The gap ends one line at most, but may leave an empty one before a function. -/
  lines : between.count '\n' ≤ if t.kind = .closeBrace ∧ t'.isWord "function" then 2 else 1
  /-- A line comment ends with its line. -/
  afterLineComment : t.kind = .lineComment → between.head? = some '\n'

/-- What the gap between two tokens tells of whether they are read apart. -/
structure Joint (t t' : Lexeme) (between : List Char) : Prop extends Spacing t t' between where
  /-- The gap begins with a space or a line break, if with anything. -/
  starts : ∀ c ∈ between.head?, c = ' ' ∨ c = '\n'
  /-- Without a gap, the tokens may touch. -/
  touches : between = [] → t.kind.touches t'.kind
  /-- Tokens that fuse are left without a gap. -/
  fuses : t.fuses t' → between = []

/-! ### One gap -/

theorem Gapped.steady {gap : List Mark} (h : Gapped previous t gap) : Steady gap := by
  have hspace {gap : List Mark} (h : .space ∉ gap) : Steady gap := by
    refine (List.pairwise_of_forall_mem_list fun m hm m' _ hs => ?_).isChain
    exact absurd (hs ▸ hm) h
  cases h with
  | start n => exact hspace (by simp)
  | touching => exact .nil
  | within _ _ hd =>
    refine (List.pairwise_of_forall_mem_list fun m _ m' hm' _ hd' => ?_).isChain
    exact absurd (hd' ▸ hm') hd
  | line => exact hspace (by simp)
  | lines => exact hspace (by simp)

theorem Gapped.head?_ne_dedent {p : Lexeme} {gap : List Mark} (h : Gapped (some p) t gap) :
    gap.head? ≠ some .dedent := by
  cases h with
  | touching | line | lines => simp
  | within _ _ hd => exact fun h => hd (List.mem_of_head? h)

theorem Gapped.lines_le {p : Lexeme} {gap : List Mark} (h : Gapped (some p) t gap) :
    gap.countP Mark.isLine ≤ if p.kind = .closeBrace ∧ t.isWord "function" then 2 else 1 := by
  have hone {n : Nat} (h : n ≤ 1) :
      n ≤ if p.kind = .closeBrace ∧ t.isWord "function" then 2 else 1 := by
    split <;> omega
  cases h with
  | touching => exact Nat.zero_le _
  | within _ _ _ hl => exact hone hl
  | line depth n =>
    refine hone ?_
    rw [List.countP_cons, List.countP_replicate]
    simp [Mark.isLine]
  | lines _ _ hk hw => rw [if_pos ⟨hk, hw⟩]; exact List.countP_le_length

/-- A gap that is spelled keeps to the spacing between tokens. -/
theorem Gapped.joint {p : Lexeme} {gap : List Mark} (h : Gapped (some p) t gap)
    (hu : ∀ c ∈ unit, Text.isBlank c) (hn : '\n' ∉ unit) (hf : p.fuses t → gap = []) :
    Joint p t (spell unit gap) := by
  have hhead : (spell unit gap).head? = gap.head?.map fun m => if m.isLine then '\n' else ' ' :=
    head?_spell h.head?_ne_dedent
  refine ⟨⟨isBlank_of_mem_spell hu, ?_, fun hk => ?_⟩, fun c hc => ?_, fun hs => ?_, fun hp => ?_⟩
  · rw [count_newline_spell hn]
    exact h.lines_le
  · rw [hhead]
    cases h with
    | touching hl | within hl => exact absurd hk hl
    | line | lines => rfl
  · rw [hhead] at hc
    obtain ⟨m, -, rfl⟩ := Option.map_eq_some_iff.1 hc
    split <;> simp
  · obtain rfl : gap = [] := by
      rw [hs] at hhead
      exact List.head?_eq_none_iff.1 (Option.map_eq_none_iff.1 hhead.symm)
    cases h with
    | touching _ ht => exact ht
    | within _ hne => exact absurd rfl hne
  · rw [hf hp]
    rfl

/-! ### All gaps -/

theorem placeAll_cons (style : Style) (st : State) (t : Lexeme) (ts : List Lexeme) :
    placeAll style st (t :: ts) =
      place style st t ts.head? :: placeAll style (place style st t ts.head?).after ts := rfl

theorem text_place (style : Style) (st : State) (t : Lexeme) (next : Option Lexeme) :
    (place style st t next).text = t.text := rfl

/-- A layout keeps the texts of the tokens. -/
theorem map_text_placeAll (style : Style) (st : State) (ts : List Lexeme) :
    (placeAll style st ts).map Placing.text = ts.map Lexeme.text := by
  induction ts generalizing st with
  | nil => rfl
  | cons t ts ih => rw [placeAll_cons, List.map_cons, List.map_cons, ih, text_place]

/-- The gaps of a layout from a state that fits its first token. -/
theorem gapped_placeAll (style : Style) (ts : List Lexeme) (h : Fits st previous t) :
    (∀ p ∈ placeAll style st (t :: ts), ∃ u v, Gapped u v p.gap) ∧
      ∀ p ∈ (placeAll style st (t :: ts)).tail, ∃ u v, Gapped (some u) v p.gap := by
  induction ts generalizing st previous t with
  | nil => simpa [placeAll] using ⟨_, _, gapped_place style none h⟩
  | cons t' ts ih =>
    have hfits : Fits (place style st t (some t')).after (some t) t' := fits_place style h
    obtain ⟨-, htail⟩ := ih hfits
    have hnext := gapped_place style ts.head? hfits
    have hall : ∀ p ∈ (placeAll style st (t :: t' :: ts)).tail, ∃ u v, Gapped (some u) v p.gap :=
      List.forall_mem_cons.2 ⟨⟨_, _, hnext⟩, htail⟩
    exact ⟨List.forall_mem_cons.2 ⟨⟨_, _, gapped_place style (some t') h⟩,
      fun p hp => (hall p hp).imp' some fun _ h => h⟩, hall⟩

/-- After the gap before its first token, a layout interleaves the tokens with
    gaps between them. -/
theorem interleaved_placeAll (style : Style) (ts : List Lexeme)
    (hu : ∀ c ∈ unit, Text.isBlank c) (hn : '\n' ∉ unit) (h : Fits st previous t) :
    ∃ body, spellAll unit (placeAll style st (t :: ts)) =
      spell unit (place style st t ts.head?).gap ++ body ∧ Interleaved Joint (t :: ts) body := by
  induction ts generalizing st previous t with
  | nil => exact ⟨t.text.toList, by simp [placeAll, spellAll, text_place], .last t⟩
  | cons t' ts ih =>
    have hfits : Fits (place style st t (some t')).after (some t) t' := fits_place style h
    obtain ⟨body, hbody, hi⟩ := ih hfits
    have hgap := gapped_place style ts.head? hfits
    refine ⟨_, ?_, .next (hgap.joint hu hn fun hf => ?_) hi⟩
    · rw [placeAll_cons, spellAll, List.flatMap_cons, ← spellAll, List.head?_cons, hbody,
        text_place, List.append_assoc]
    · exact gap_place_of_fuses style _ (seam_place_of_fuses style h hf) rfl hf

/-- Before the first token there is nothing. -/
theorem Gapped.spell_eq_nil {gap : List Mark} (h : Gapped none t gap) : spell unit gap = [] := by
  cases h with
  | start _ n =>
    induction n with
    | zero => rfl
    | succ n ih => exact ih

/-- The gaps of a layout take levels back where they were written only. -/
theorem steady_placeAll (style : Style) (ts : List Lexeme) :
    (∀ p ∈ placeAll style {} ts, Steady p.gap) ∧
      ∀ p ∈ (placeAll style {} ts).tail, p.gap.head? ≠ some .dedent := by
  cases ts with
  | nil => exact ⟨fun p hp => absurd hp List.not_mem_nil, fun p hp => absurd hp List.not_mem_nil⟩
  | cons t ts =>
    obtain ⟨hall, htail⟩ := gapped_placeAll style ts (.start t)
    refine ⟨fun p hp => ?_, fun p hp => ?_⟩
    · obtain ⟨_, _, h⟩ := hall p hp
      exact h.steady
    · obtain ⟨_, _, h⟩ := htail p hp
      exact h.head?_ne_dedent

/-- The text of the layout of some tokens. -/
theorem render_placeAll {unit : String} (hn : '\n' ∉ unit.toList) (style : Style)
    (ts : List Lexeme) : render unit (placeAll style {} ts) =
      String.ofList (spellAll unit.toList (placeAll style {} ts) ++ ['\n']) :=
  render_eq hn (steady_placeAll style ts).1 (steady_placeAll style ts).2

theorem exists_interleaved_joint (options : Options) (source : String)
    (hu : ∀ c ∈ options.indent.toList, Text.isBlank c) (hn : '\n' ∉ options.indent.toList) :
    ∃ body, format options source = .ok (String.ofList (body ++ ['\n'])) ∧
      Interleaved Joint (lexemes source) body := by
  rw [format_eq, render_placeAll hn]
  cases hts : lexemes source with
  | nil => exact ⟨[], rfl, .none⟩
  | cons t ts =>
    obtain ⟨body, hbody, hi⟩ := interleaved_placeAll options.toStyle ts hu hn (.start t)
    refine ⟨body, ?_, hi⟩
    rw [hbody, (gapped_place options.toStyle ts.head? (.start t)).spell_eq_nil, List.nil_append]

/-- The gaps of a layout keep lexemes apart that were read one after the other
    and do not fuse. -/
theorem separates_of_joint {text body : List Char} (hr : Reads previous text ts)
    (hi : Interleaved Joint ts body) (hf : ts.IsChain fun t t' => t.fuses t' = false) :
    Interleaved Lexeme.Separates ts body := by
  -- What two lexemes were read from tells how their texts begin, and nothing about the gap.
  induction hi generalizing previous text with
  | none => exact .none
  | last t => exact .last t
  | @next t t' ts between rest hj hi ih =>
    obtain ⟨hff, hf⟩ := List.isChain_cons_cons.1 hf
    cases hr with
    | next _ hh hr =>
      refine .next ?_ (ih hr hf)
      cases hr with
      | next _ hh' =>
        exact hh.separates hh' hj.blank hj.starts hj.afterLineComment hj.touches hff

/-- The text of a layout is read as the lexemes it was made of, where none fuse. -/
theorem lexemes_of_joint {source : String} {body : List Char}
    (hi : Interleaved Joint (lexemes source) body) (hc : ∀ t ∈ lexemes source, t.isClosed)
    (hf : (lexemes source).IsChain fun t t' => t.fuses t' = false) :
    lexemes (String.ofList (body ++ ['\n'])) = lexemes source := by
  rw [lexemes_eq_iff, String.toList_ofList]
  refine (reads_lexemes source).respaced hc (separates_of_joint (reads_lexemes source) hi hf)
    (List.all_eq_true.1 rfl) fun t _ c hc => ?_
  obtain rfl : '\n' = c := Option.some.inj hc
  exact Lexeme.takes_newline ..

end Layout

/-! ### The results -/

/-- A source consists of its lexemes in their order, with blanks around and
    between them. Its layout consists of the same lexemes in the same order, with
    the gaps of a layout between them, and a line break at the end. -/
theorem format_interleaves (options : Options) (source : String)
    (hu : ∀ c ∈ options.indent.toList, Text.isBlank c) (hn : '\n' ∉ options.indent.toList) :
    (∃ before body after, source.toList = before ++ (body ++ after) ∧
      (∀ c ∈ before ++ after, Text.isBlank c) ∧
      Interleaved (fun _ _ between => ∀ c ∈ between, Text.isBlank c) (lexemes source) body) ∧
    ∃ body, format options source = .ok (String.ofList (body ++ ['\n'])) ∧
      Interleaved Layout.Spacing (lexemes source) body := by
  obtain ⟨body, hf, hi⟩ := Layout.exists_interleaved_joint options source hu hn
  exact ⟨(reads_lexemes source).interleaved, body, hf, hi.mono fun _ _ _ h => h.toSpacing⟩

/-- A label, a trailing comment and a unit of one tab. -/
theorem format_interleaves_tab :
    (∀ c ∈ "\t".toList, Text.isBlank c) ∧ '\n' ∉ "\t".toList ∧
    ∃ body, format { indent := "\t" } "case 1: f()//g\n" =
        .ok (String.ofList (body ++ ['\n'])) ∧
      Interleaved Layout.Spacing (lexemes "case 1: f()//g\n") body :=
  ⟨List.all_eq_true.1 rfl, by decide,
    (format_interleaves { indent := "\t" } "case 1: f()//g\n" (List.all_eq_true.1 rfl)
      (by decide)).2⟩

/-- A source whose lexemes are closed is read from its layout as it was, if and
    only if no two neighbours fuse. -/
theorem lexemes_format_iff (options : Options) (source : String)
    (hu : ∀ c ∈ options.indent.toList, Text.isBlank c) (hn : '\n' ∉ options.indent.toList)
    (hc : ∀ t ∈ lexemes source, t.isClosed) :
    ∃ out, format options source = .ok out ∧ (lexemes out = lexemes source ↔
      (lexemes source).IsChain fun t t' => t.fuses t' = false) := by
  obtain ⟨body, hf, hi⟩ := Layout.exists_interleaved_joint options source hu hn
  refine ⟨_, hf, fun h => ?_, Layout.lexemes_of_joint hi hc⟩
  rw [lexemes_eq_iff, String.toList_ofList] at h
  have hb : ∀ c ∈ [], Text.isBlank c := fun c hc => absurd hc List.not_mem_nil
  exact Reads.not_fuses (hi.mono fun _ _ _ h => ⟨h.blank, h.fuses⟩) h hb hc

/-- A sign before a name, which the space between them goes from. -/
theorem lexemes_format_iff_sign :
    (∀ t ∈ lexemes "a - - b", t.isClosed) ∧ ∃ out, format .standard "a - - b" = .ok out ∧
      (lexemes out = lexemes "a - - b" ↔
        (lexemes "a - - b").IsChain fun t t' => t.fuses t' = false) :=
  ⟨by decide +kernel, lexemes_format_iff .standard "a - - b" (List.all_eq_true.1 rfl) (by decide)
    (by decide +kernel)⟩

/-- Two signs before a name become a decrement. -/
theorem exists_lexemes_format_ne :
    ¬ ∀ (options : Options) (source : String), (∀ c ∈ options.indent.toList, Text.isBlank c) →
      '\n' ∉ options.indent.toList → (∀ t ∈ lexemes source, t.isClosed) →
      ∃ out, format options source = .ok out ∧ lexemes out = lexemes source := by
  intro h
  obtain ⟨out, hout, heq⟩ := h .standard "- -x" (List.all_eq_true.1 rfl) (by decide)
    (by decide +kernel)
  have hformat : format .standard "- -x" = .ok "--x\n" := by decide +kernel
  obtain rfl : "--x\n" = out := Except.ok.inj (hformat.symm.trans hout)
  exact absurd heq (by decide +kernel)

/-- A source whose lexemes are closed, and no two neighbours of them fuse, has a
    layout that formatting leaves as it is. -/
theorem format_format (options : Options) (source : String)
    (hu : ∀ c ∈ options.indent.toList, Text.isBlank c) (hn : '\n' ∉ options.indent.toList)
    (hc : ∀ t ∈ lexemes source, t.isClosed)
    (hf : (lexemes source).IsChain fun t t' => t.fuses t' = false) :
    ∃ out, format options source = .ok out ∧ format options out = .ok out := by
  obtain ⟨body, hout, hi⟩ := Layout.exists_interleaved_joint options source hu hn
  refine ⟨_, hout, ?_⟩
  rw [format_eq, Layout.lexemes_of_joint hi hc hf, ← format_eq, hout]

/-- A regular expression with flags, a number and a member, and two signs apart. -/
theorem format_format_apart :
    (∀ t ∈ lexemes "x=/a/g, 1.5.f, -(-y)", t.isClosed) ∧
    ((lexemes "x=/a/g, 1.5.f, -(-y)").IsChain fun t t' => t.fuses t' = false) ∧
    ∃ out, format .standard "x=/a/g, 1.5.f, -(-y)" = .ok out ∧ format .standard out = .ok out :=
  ⟨by decide +kernel, by decide +kernel, format_format .standard "x=/a/g, 1.5.f, -(-y)"
    (List.all_eq_true.1 rfl) (by decide) (by decide +kernel) (by decide +kernel)⟩

end ScriptLayout
