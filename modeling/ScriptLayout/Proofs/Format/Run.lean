import ScriptLayout.Proofs.Format.Indentation

/-!
# Runs

The placing of some lexemes in a row, from one state to another (`Layout.Run`), each of
them placed as a predicate says. Runs compose, and what a run passes through is found in
the layout of the whole (`Layout.Run.getElem?_placeAll`, `Layout.Run.stateAfter_placeAll`).

Where no gap takes back more than it has written itself (`Layout.Draft.Keeps`), what has
been written of a layout stays (`Layout.exists_render_of_keeps`), whatever a level of
indentation consists of, line breaks included.
-/

namespace ScriptLayout

namespace Layout

variable {style : Style} {P Q : Placing → Prop} {st st' st'' : State} {t : Lexeme}
  {ts ts' rest : List Lexeme} {k : Nat}

/-- From the state `st`, the lexemes `ts` before `rest` are placed one after the other, each
    as `P` says, and leave the state `st'`. -/
inductive Run (style : Style) (P : Placing → Prop) :
    State → List Lexeme → List Lexeme → State → Prop
  | nil (st : State) (rest : List Lexeme) : Run style P st [] rest st
  | cons {st st' : State} {t : Lexeme} {ts rest : List Lexeme} :
      P (place style st t (ts ++ rest).head?) →
      Run style P (place style st t (ts ++ rest).head?).after ts rest st' →
      Run style P st (t :: ts) rest st'

namespace Run

theorem single (h : P (place style st t rest.head?)) :
    Run style P st [t] rest (place style st t rest.head?).after :=
  .cons h (.nil _ _)

theorem append (h : Run style P st ts (ts' ++ rest) st') (h' : Run style P st' ts' rest st'') :
    Run style P st (ts ++ ts') rest st'' := by
  induction ts generalizing st with
  | nil =>
    cases h
    exact h'
  | cons t ts ih =>
    cases h with
    | cons hp h =>
      rw [← List.append_assoc] at hp h
      exact .cons hp (ih (List.append_assoc ts ts' rest ▸ h))

theorem mono (hPQ : ∀ p, P p → Q p) (h : Run style P st ts rest st') :
    Run style Q st ts rest st' := by
  induction h with
  | nil => exact .nil _ _
  | cons hp _ ih => exact .cons (hPQ _ hp) ih

/-- The kind of the last token is remembered. -/
theorem previous_eq (h : Run style P st ts rest st') :
    st'.previous = (ts.getLast?.map Lexeme.kind).getD st.previous := by
  induction h with
  | nil => rfl
  | @cons st st' t ts rest hp _ ih =>
    rw [ih, List.getLast?_cons]
    cases ts.getLast? <;> rfl

/-- The placings of the run. -/
theorem exists_placing (h : Run style P st ts rest st') (hk : k < ts.length) :
    ∃ p, (placeAll style st (ts ++ rest))[k]? = some p ∧ P p := by
  induction h generalizing k with
  | nil => exact absurd hk (Nat.not_lt_zero k)
  | cons hp _ ih =>
    rw [List.cons_append, placeAll_cons]
    cases k with
    | zero => exact ⟨_, rfl, hp⟩
    | succ k => exact ih (Nat.lt_of_succ_lt_succ hk)

/-- All placings, where the run is all there is. -/
theorem forall_placeAll (h : Run style P st ts [] st') : ∀ p ∈ placeAll style st ts, P p := by
  intro p hp
  obtain ⟨k, hk, hget⟩ := List.mem_iff_getElem.1 hp
  have hlen : (placeAll style st ts).length = ts.length := by
    simpa using congrArg List.length (map_text_placeAll style st ts)
  obtain ⟨q, hq, hPq⟩ := h.exists_placing (hlen ▸ hk)
  rw [List.append_nil, List.getElem?_eq_getElem hk, hget] at hq
  exact Option.some.inj hq ▸ hPq

/-- The placings after the run. -/
theorem getElem?_placeAll (h : Run style P st ts rest st') (k : Nat) :
    (placeAll style st (ts ++ rest))[ts.length + k]? = (placeAll style st' rest)[k]? := by
  induction h with
  | nil => rw [List.nil_append, List.length_nil, Nat.zero_add]
  | cons _ _ ih =>
    rw [List.cons_append, placeAll_cons, List.length_cons, Nat.add_right_comm,
      List.getElem?_cons_succ]
    exact ih

/-- The placings of a run within a longer one. -/
theorem exists_placing_append (h : Run style P st ts (ts' ++ rest) st')
    (h' : Run style Q st' ts' rest st'') (hk : k < ts'.length) :
    ∃ p, (placeAll style st (ts ++ (ts' ++ rest)))[ts.length + k]? = some p ∧ Q p := by
  obtain ⟨p, hp, hQp⟩ := h'.exists_placing hk
  exact ⟨p, (h.getElem?_placeAll k).trans hp, hQp⟩

/-- The states after the run. -/
theorem stateAfter_placeAll (h : Run style P st ts rest st') (k : Nat) :
    stateAfter st (placeAll style st (ts ++ rest)) (ts.length + k) =
      stateAfter st' (placeAll style st' rest) k := by
  induction h with
  | nil => rw [List.nil_append, List.length_nil, Nat.zero_add]
  | cons _ _ ih =>
    rw [List.cons_append, placeAll_cons, List.length_cons, Nat.add_right_comm, stateAfter]
    exact ih

end Run

/-- From the state `st`, the lexemes `ts` before `rest` are placed as `P` says, and leave the
    state `st'`; the last of them is placed in the state `last`. -/
def Passes (style : Style) (P : Placing → Prop) (st : State) (ts rest : List Lexeme)
    (last st' : State) : Prop :=
  ∃ init t, ts = init ++ [t] ∧ Run style P st init (t :: rest) last ∧ Run style P last [t] rest st'

namespace Passes

variable {last : State}

theorem run (h : Passes style P st ts rest last st') : Run style P st ts rest st' := by
  obtain ⟨init, t, rfl, hinit, ht⟩ := h
  exact hinit.append ht

theorem of_run (h : Run style P st ts (ts' ++ rest) st')
    (h' : Passes style P st' ts' rest last st'') :
    Passes style P st (ts ++ ts') rest last st'' := by
  obtain ⟨init, t, rfl, hinit, ht⟩ := h'
  rw [List.append_assoc] at h
  exact ⟨ts ++ init, t, (List.append_assoc ..).symm, h.append hinit, ht⟩

theorem stateAfter_placeAll (h : Passes style P st ts rest last st') :
    stateAfter st (placeAll style st (ts ++ rest)) (ts.length - 1) = last := by
  obtain ⟨init, t, rfl, hinit, -⟩ := h
  have hlast := hinit.stateAfter_placeAll 0
  rw [stateAfter_zero] at hlast
  rw [List.append_assoc, List.length_append]
  exact hlast

end Passes

/-! ### Gaps that keep the text before them -/

/-- Writing the gap leaves what has been written before it, whatever a level consists of. -/
def Draft.Keeps (d : Draft) : Prop :=
  ∀ unit written : List Char, written <:+ d.gap.foldl (Mark.write unit) written

theorem suffix_write_line (unit written : List Char) (depth : Nat) :
    written <:+ Mark.write unit written (.line depth) :=
  (List.suffix_cons _ _).trans (List.suffix_append _ _)

/-- A level that is taken back is found at the end of the text. -/
theorem write_dedent_append (unit written : List Char) :
    Mark.write unit (unit.reverse ++ written) .dedent = written := by
  rw [Mark.write, if_pos (List.isPrefixOf_iff_prefix.2 (List.prefix_append _ _)),
    ← List.length_reverse, List.drop_left]

/-- A line break with a level more, which is taken back, is one without it. -/
theorem write_dedent_line (unit written : List Char) (depth : Nat) :
    Mark.write unit (Mark.write unit written (.line (depth + 1))) .dedent =
      Mark.write unit written (.line depth) := by
  have h : Mark.write unit written (.line (depth + 1)) =
      unit.reverse ++ Mark.write unit written (.line depth) := by
    rw [Mark.write, Mark.write, List.replicate_succ, List.flatten_cons, List.append_assoc]
  rw [h, write_dedent_append]

namespace Draft.Keeps

variable {d d' : Draft}

/-- Only the gap matters. -/
theorem of_gap_eq (h : d.Keeps) (hg : d'.gap = d.gap) : d'.Keeps := by
  intro unit written
  rw [hg]
  exact h unit written

theorem of_gap_eq_nil (h : d.gap = []) : d.Keeps := by
  intro unit written
  rw [h]
  exact List.suffix_refl _

theorem space (h : d.Keeps) : d.space.Keeps := by
  intro unit written
  rw [gap_space, List.foldl_append]
  exact (h unit written).trans (List.suffix_cons _ _)

theorem spaceUnlessAfter {kinds : List Kind} (h : d.Keeps) : (d.spaceUnlessAfter kinds).Keeps := by
  rw [Draft.spaceUnlessAfter]
  split
  · exact h
  · exact h.space

theorem newline (h : d.Keeps) : d.newline.Keeps := by
  intro unit written
  rw [gap_newline, List.foldl_append]
  exact (h unit written).trans (suffix_write_line _ _ _)

/-- The gap that a seam calls for. -/
theorem ofState (st : State) : (Draft.ofState st).Keeps := by
  rw [Draft.ofState]
  split
  · exact of_gap_eq_nil rfl
  · exact .newline (of_gap_eq_nil rfl)
  · exact of_gap_eq_nil rfl
  · exact of_gap_eq_nil rfl
  · exact of_gap_eq_nil rfl
  · exact of_gap_eq_nil rfl

theorem line {depth : Nat} (h : d.gap = [.line depth]) : d.Keeps := by
  intro unit written
  rw [h]
  exact suffix_write_line _ _ _

/-- A level can be taken back right after a line break with a level. -/
theorem dedent {depth : Nat} (h : d.gap = [.line (depth + 1), .dedent]) : d.Keeps := by
  intro unit written
  rw [h, List.foldl_cons, List.foldl_cons, List.foldl_nil, write_dedent_line]
  exact suffix_write_line _ _ _

end Draft.Keeps

/-- What has been written stays, where gaps keep it. -/
theorem suffix_foldl_write {layout : List Placing} (h : ∀ p ∈ layout, p.Keeps)
    (unit written : List Char) : written <:+ layout.foldl (Placing.write unit) written := by
  induction layout generalizing written with
  | nil => exact List.suffix_refl _
  | cons p layout ih =>
    rw [List.forall_mem_cons] at h
    refine (h.1 unit written).trans (.trans ?_ (ih h.2 (p.write unit written)))
    rw [Placing.write, List.reverseAux_eq]
    exact List.suffix_append _ _

/-- What has been written of a layout is how its text begins, where gaps keep it. -/
theorem exists_render_of_keeps {layout : List Placing} (h : ∀ p ∈ layout, p.Keeps)
    (unit : String) (k : Nat) : ∃ rest : String, render unit layout =
      String.ofList (writtenAfter unit.toList layout k).reverse ++ rest := by
  have hdrop : ∀ p ∈ layout.drop k, p.Keeps := fun p hp => h p (List.mem_of_mem_drop hp)
  obtain ⟨more, hmore⟩ := suffix_foldl_write hdrop unit.toList (writtenAfter unit.toList layout k)
  refine ⟨String.ofList (more.reverse ++ ['\n']), ?_⟩
  rw [render, ← List.take_append_drop k layout, List.foldl_append, ← writtenAfter, ← hmore,
    List.reverse_cons, List.reverse_append, List.take_append_drop, List.append_assoc,
    String.ofList_append]

end Layout

end ScriptLayout
