import ScriptLayout.Lexer

/-!
# Delivering tokens one after the other

The tokens that a lexer delivers are a list (`Lexer.toList`), of which delivering
takes the first, and looking ahead none (`peek_of_pending`). The lexer after some
tokens (`forward`) delivers the rest of the list (`next?_forward`), and the last
of them is its current one (`current_forward`).
-/

namespace ScriptLayout

variable {l l' : Lexer} {t : Token}

/-! ### Reading one token -/

/-- Reading a token goes over blanks, to where the token stands, and then over its
    characters, of which there are some. The token is linked to the one before. -/
theorem Cursor.exists_of_token? {c c' : Cursor} {previous : Option Lexeme}
    (h : c.token? previous = some (t, c')) : ∃ n,
      c' = (c.skipWhile Text.isBlank).advanceBy n ∧
      t.text.toList = (c.skipWhile Text.isBlank).ahead.take n ∧ t.text.toList ≠ [] ∧
      t.previous = previous := by
  simp only [token?] at h
  split at h
  · exact absurd h (by simp)
  · next x rest hs =>
    obtain ⟨rfl, rfl⟩ := Prod.mk.inj (Option.some.inj h)
    refine ⟨_, rfl, ?_, ?_, rfl⟩
    · rw [String.toList_ofList, hs]
    · obtain ⟨n, hn⟩ := Nat.exists_eq_succ_of_ne_zero
        (Nat.ne_of_gt (Lexeme.measure_pos previous x rest))
      rw [String.toList_ofList, hn, List.take_succ_cons]
      exact List.cons_ne_nil _ _

namespace Lexer

/-- Where no token is pending, the next one is read from the source, and linked to
    the one delivered last. -/
theorem token?_of_next? (hp : l.pending = none) (h : l.next? = some (t, l')) :
    l.cursor.token? (l.current.map Token.toLexeme) = some (t, l'.cursor) := by
  simp only [next?, hp] at h
  split at h
  · next htoken =>
    obtain ⟨rfl, rfl⟩ := Prod.mk.inj (Option.some.inj h)
    exact htoken
  · exact absurd h (by simp)

theorem previous_of_next? (hp : l.pending = none) (h : l.next? = some (t, l')) :
    t.previous = l.current.map Token.toLexeme := by
  obtain ⟨-, -, -, -, hprevious⟩ := Cursor.exists_of_token? (token?_of_next? hp h)
  exact hprevious

/-! ### The tokens to come -/

theorem toList_of_next?_eq_none (h : l.next? = none) : l.toList = [] := by
  rw [toList]
  split
  · rfl
  · next hn => exact absurd (h.symm.trans hn) (by simp)

theorem toList_of_next?_eq_some (h : l.next? = some (t, l')) : l.toList = t :: l'.toList := by
  rw [toList]
  split
  · next hn => exact absurd (h.symm.trans hn) (by simp)
  · next hn =>
    obtain ⟨rfl, rfl⟩ := Prod.mk.inj (Option.some.inj (h.symm.trans hn))
    rfl

/-- The token delivered is the current one. -/
theorem current_of_next? (h : l.next? = some (t, l')) : l'.current = some t := by
  rw [next?] at h
  split at h
  · obtain ⟨rfl, rfl⟩ := Prod.mk.inj (Option.some.inj h)
    rfl
  · split at h
    · obtain ⟨rfl, rfl⟩ := Prod.mk.inj (Option.some.inj h)
      rfl
    · exact absurd h (by simp)

/-- Looking ahead where no token is pending finds the first of the tokens to
    come, and they are still to come. -/
theorem peek_of_pending (h : l.pending = none) :
    ∃ l', l.peek = .ok (l.toList.head?, l') ∧ l'.toList = l.toList := by
  rw [peek, h]
  dsimp only
  cases hn : l.next? with
  | none =>
    rw [toList_of_next?_eq_none hn]
    exact ⟨l, rfl, toList_of_next?_eq_none hn⟩
  | some next =>
    obtain ⟨t, l'⟩ := next
    have hp := (remaining_of_next? hn).2
    have hc := current_of_next? hn
    rw [toList_of_next?_eq_some hn]
    refine ⟨{ l' with pending := some t }, ?_, ?_⟩
    · simp [unget, hp, hc, Except.map]
    · refine toList_of_next?_eq_some ?_
      cases l'
      subst hp hc
      rfl

/-! ### The lexer after some tokens -/

/-- The lexer after `n` more tokens, or at the end if there are fewer. -/
def forward (l : Lexer) : Nat → Lexer
  | 0 => l
  | n + 1 =>
    match l.next? with
    | none => l
    | some (_, l') => l'.forward n

@[simp]
theorem forward_zero (l : Lexer) : l.forward 0 = l := rfl

theorem forward_of_next?_eq_none (h : l.next? = none) (n : Nat) : l.forward n = l := by
  cases n with
  | zero => rfl
  | succ n => rw [forward, h]

theorem forward_of_next?_eq_some (h : l.next? = some (t, l')) (n : Nat) :
    l.forward (n + 1) = l'.forward n := by
  rw [forward, h]

/-- After `n` tokens the lexer delivers the next of the list, as if it had never
    stopped. -/
theorem next?_forward (l : Lexer) (n : Nat) :
    (l.forward n).next? = l.toList[n]?.map fun t => (t, l.forward (n + 1)) := by
  induction n generalizing l with
  | zero =>
    cases h : l.next? with
    | none => rw [toList_of_next?_eq_none h, forward_zero, h]; rfl
    | some next =>
      rw [toList_of_next?_eq_some h, forward_of_next?_eq_some h, forward_zero, h]
      rfl
  | succ n ih =>
    cases h : l.next? with
    | none =>
      rw [toList_of_next?_eq_none h, forward_of_next?_eq_none h, h]
      rfl
    | some next =>
      rw [toList_of_next?_eq_some h, forward_of_next?_eq_some h, forward_of_next?_eq_some h, ih,
        List.getElem?_cons_succ]

theorem next?_eq (l : Lexer) : l.next? = l.toList.head?.map fun t => (t, l.forward 1) := by
  rw [List.head?_eq_getElem?]
  exact l.next?_forward 0

theorem next?_forward_of_lt {n : Nat} (h : n < l.toList.length) :
    (l.forward n).next? = some (l.toList[n], l.forward (n + 1)) := by
  rw [next?_forward, List.getElem?_eq_getElem h, Option.map_some]

/-- The last token delivered is the current one. -/
theorem current_forward {n : Nat} (h : n < l.toList.length) :
    (l.forward (n + 1)).current = some l.toList[n] :=
  current_of_next? (next?_forward_of_lt h)

/-- The tokens to come after `n` more. -/
theorem toList_forward (l : Lexer) (n : Nat) : (l.forward n).toList = l.toList.drop n := by
  induction n generalizing l with
  | zero => rfl
  | succ n ih =>
    cases h : l.next? with
    | none => rw [forward_of_next?_eq_none h, toList_of_next?_eq_none h, List.drop_nil]
    | some next =>
      rw [forward_of_next?_eq_some h, toList_of_next?_eq_some h, ih, List.drop_succ_cons]

theorem pending_forward (h : l.pending = none) (n : Nat) : (l.forward n).pending = none := by
  induction n generalizing l with
  | zero => exact h
  | succ n ih =>
    cases hn : l.next? with
    | none => rw [forward_of_next?_eq_none hn, h]
    | some next => rw [forward_of_next?_eq_some hn]; exact ih (remaining_of_next? hn).2

end Lexer

end ScriptLayout
