import Mathlib.Data.List.Chain
import ScriptLayout.Layout.Render
import ScriptLayout.Text.Blank

/-!
# The text of a gap

A level of indentation is taken back by a look at the text written so far. In
the gaps of a layout that look always finds the level it is meant for, or no
level at all: levels are taken back right after the line break that they were
written with, or else before there is any text (`Steady`). So a gap can be
spelled by itself (`spell`), and a layout is the texts of its tokens with the
spelled gaps before them (`render_eq`), provided that no level contains a line
break.
-/

namespace ScriptLayout.Layout

variable {unit : List Char} {gap : List Mark} {depth : Nat}

/-- The text of a number of levels of indentation. -/
def levels (unit : List Char) (depth : Nat) : List Char :=
  (List.replicate depth unit).flatten

/-- The number of levels that a gap takes back before it writes anything. -/
def dedents : List Mark → Nat
  | .dedent :: gap => dedents gap + 1
  | [] | .space :: _ | .line _ :: _ => 0

/-- The text of a gap. A line break is written with the levels that are not
    taken back right after it. -/
def spell (unit : List Char) : List Mark → List Char
  | [] => []
  | .space :: gap => ' ' :: spell unit gap
  | .line depth :: gap => '\n' :: (levels unit (depth - dedents gap) ++ spell unit gap)
  | .dedent :: gap => spell unit gap

/-- No level is taken back after a space. -/
def Steady (gap : List Mark) : Prop :=
  gap.IsChain fun m m' => m = .space → m' ≠ .dedent

/-! ### Levels -/

@[simp]
theorem levels_zero : levels unit 0 = [] := rfl

theorem reverse_levels (depth : Nat) :
    (levels unit depth).reverse = (List.replicate depth unit.reverse).flatten := by
  rw [levels, List.reverse_flatten, List.map_replicate, List.reverse_replicate]

theorem levels_succ (unit : List Char) (depth : Nat) :
    levels unit (depth + 1) = levels unit depth ++ unit := by
  rw [levels, List.replicate_succ', List.flatten_concat]
  rfl

theorem length_levels (unit : List Char) (depth : Nat) :
    (levels unit depth).length = depth * unit.length := by
  simp [levels]

theorem levels_inj (hne : unit ≠ []) {depth' : Nat} :
    levels unit depth = levels unit depth' ↔ depth = depth' := by
  refine ⟨fun h => ?_, fun h => h ▸ rfl⟩
  have hlen := congrArg List.length h
  rw [length_levels, length_levels] at hlen
  exact Nat.eq_of_mul_eq_mul_right (List.length_pos_iff.2 hne) hlen

theorem mem_of_mem_levels {c : Char} (h : c ∈ levels unit depth) : c ∈ unit := by
  obtain ⟨l, hl, hc⟩ := List.mem_flatten.1 h
  exact List.eq_of_mem_replicate hl ▸ hc

/-! ### Writing a gap -/

/-- Taking back a level finds it at the end of a line break with levels. -/
theorem write_dedent_levels (hu : '\n' ∉ unit) (depth : Nat) (written : List Char) :
    Mark.write unit ((levels unit depth).reverse ++ '\n' :: written) .dedent =
      (levels unit (depth - 1)).reverse ++ '\n' :: written := by
  rw [Mark.write]
  cases depth with
  | zero =>
    cases hr : unit.reverse with
    | nil =>
      obtain rfl := List.reverse_eq_nil_iff.1 hr
      rfl
    | cons c cs =>
      have hc : c ≠ '\n' := fun hc => hu (List.mem_reverse.1 (by simp [hr, hc]))
      simp [hc]
  | succ depth =>
    rw [reverse_levels, List.replicate_succ, List.flatten_cons, List.append_assoc,
      if_pos (by simp), Nat.add_sub_cancel, ← List.length_reverse, List.drop_left, reverse_levels]

/-- Before there is any text, there is no level to take back. -/
theorem write_dedent_nil : Mark.write unit [] .dedent = [] := by
  rw [Mark.write]
  split <;> simp

/-- Writing a gap after a line break with levels takes back the levels that the
    gap begins with; after any other text it writes what the gap spells. -/
theorem foldl_write (hu : '\n' ∉ unit) (hs : Steady gap) :
    (∀ depth written, gap.foldl (Mark.write unit) ((levels unit depth).reverse ++ '\n' :: written) =
      (spell unit gap).reverse ++
        ((levels unit (depth - dedents gap)).reverse ++ '\n' :: written)) ∧
    ∀ written, gap.head? ≠ some .dedent ∨ written = [] →
      gap.foldl (Mark.write unit) written = (spell unit gap).reverse ++ written := by
  induction gap with
  | nil => exact ⟨fun depth written => by simp [spell, dedents], fun written _ => rfl⟩
  | cons m gap ih =>
    obtain ⟨ihline, ih⟩ := ih hs.tail
    cases m with
    | space =>
      have hn : gap.head? ≠ some .dedent := by
        cases gap with
        | nil => simp
        | cons m' gap => simpa using (List.isChain_cons_cons.1 hs).1 rfl
      refine ⟨fun depth written => ?_, fun written _ => ?_⟩ <;>
        simp [Mark.write, spell, dedents, ih _ (.inl hn)]
    | line depth =>
      -- A line break stops the look back, so that the text before it does not matter.
      have hwrite (written : List Char) :
          (Mark.line depth :: gap).foldl (Mark.write unit) written =
            (spell unit (.line depth :: gap)).reverse ++ written := by
        rw [List.foldl_cons, Mark.write, ← reverse_levels, ihline]
        simp [spell]
      refine ⟨fun _ written => ?_, fun written _ => hwrite written⟩
      rw [hwrite, dedents, Nat.sub_zero]
    | dedent =>
      refine ⟨fun depth written => ?_, fun written hw => ?_⟩
      · rw [List.foldl_cons, write_dedent_levels hu, ihline, spell, dedents, Nat.sub_sub,
          Nat.add_comm 1]
      · obtain rfl : written = [] := hw.resolve_left (by simp)
        rw [List.foldl_cons, write_dedent_nil, ih [] (.inr rfl), spell]

/-! ### Writing a layout -/

/-- The text of a layout up to its last token. -/
def spellAll (unit : List Char) (layout : List Placing) : List Char :=
  layout.flatMap fun p => spell unit p.gap ++ p.text.toList

theorem write_eq (hu : '\n' ∉ unit) {p : Placing} (hs : Steady p.gap) {written : List Char}
    (hd : p.gap.head? ≠ some .dedent ∨ written = []) :
    p.write unit written = (spell unit p.gap ++ p.text.toList).reverse ++ written := by
  rw [Placing.write, (foldl_write hu hs).2 written hd, List.reverseAux_eq, List.reverse_append,
    List.append_assoc]

/-- A layout is the texts of its tokens, each after the text of its gap. -/
theorem render_eq {unit : String} (hu : '\n' ∉ unit.toList) {layout : List Placing}
    (hs : ∀ p ∈ layout, Steady p.gap) (hd : ∀ p ∈ layout.tail, p.gap.head? ≠ some .dedent) :
    render unit layout = String.ofList (spellAll unit.toList layout ++ ['\n']) := by
  -- After the first token there is text, in which no level must be looked for.
  have htail (layout : List Placing) (hs : ∀ p ∈ layout, Steady p.gap)
      (hd : ∀ p ∈ layout, p.gap.head? ≠ some .dedent) (written : List Char) :
      layout.foldl (Placing.write unit.toList) written =
        (spellAll unit.toList layout).reverse ++ written := by
    induction layout generalizing written with
    | nil => rfl
    | cons p layout ih =>
      rw [List.forall_mem_cons] at hs hd
      rw [List.foldl_cons, write_eq hu hs.1 (.inl hd.1), ih hs.2 hd.2]
      simp [spellAll]
  cases layout with
  | nil => rfl
  | cons p layout =>
    rw [List.forall_mem_cons] at hs
    rw [render, List.foldl_cons, write_eq hu hs.1 (.inr rfl), htail layout hs.2 hd]
    simp [spellAll]

/-! ### What a gap consists of -/

/-- A gap consists of blanks, if levels do. -/
theorem isBlank_of_mem_spell (hu : ∀ c ∈ unit, Text.isBlank c) :
    ∀ c ∈ spell unit gap, Text.isBlank c := by
  induction gap with
  | nil => simp [spell]
  | cons m gap ih =>
    cases m with
    | space => exact List.forall_mem_cons.2 ⟨by decide, ih⟩
    | line depth =>
      refine List.forall_mem_cons.2 ⟨by decide, fun c hc => ?_⟩
      exact (List.mem_append.1 hc).elim (fun hc => hu c (mem_of_mem_levels hc)) (ih c)
    | dedent => exact ih

/-- Whether the mark is a line break. -/
def Mark.isLine : Mark → Bool
  | line _ => true
  | _ => false

/-- The line breaks of a gap are those it was placed with. -/
theorem count_newline_spell (hu : '\n' ∉ unit) :
    (spell unit gap).count '\n' = gap.countP Mark.isLine := by
  induction gap with
  | nil => rfl
  | cons m gap ih =>
    have hlevels (n : Nat) : (levels unit n).count '\n' = 0 :=
      List.count_eq_zero.2 fun hc => hu (mem_of_mem_levels hc)
    cases m <;> simp [spell, List.countP_cons, Mark.isLine, ih, hlevels]

/-- A gap that takes back nothing begins with a space or a line break. -/
theorem head?_spell (hd : gap.head? ≠ some .dedent) :
    (spell unit gap).head? = gap.head?.map fun m => if m.isLine then '\n' else ' ' := by
  cases gap with
  | nil => rfl
  | cons m gap =>
    cases m with
    | space | line => rfl
    | dedent => exact absurd rfl hd

end ScriptLayout.Layout
