import Mathlib.Tactic.SplitIfs
import ScriptLayout.Proofs.Lexer.Delivery

/-!
# Handing tokens back

A lexer reads its source as far as it is asked to, and tells a slash from a
regular expression by the token it delivered last; handing tokens back and
looking ahead move that token. All of this comes to a bookmark in the list of
the tokens (`Bookmark`): the number of tokens read, and whether the last of them
is to be read again. In whatever order a lexer is called, it answers as the
bookmark does (`answers_ofString`).

What carries this is that the bookmark determines the lexer: it is the lexer
after so many tokens, with the current token handed back or not
(`Bookmark.lexer`), and every call leads from such a lexer to another
(`Bookmark.call_lexer`).
-/

namespace ScriptLayout

namespace Lexer

/-- A call of a lexer. -/
inductive Call where
  /-- Delivers the next token. -/
  | next
  /-- Looks at the next token. -/
  | peek
  /-- Hands back the token delivered last. -/
  | unget
  /-- Tells the token delivered last. -/
  | current
  deriving DecidableEq, Repr

/-- What a call of a lexer tells. -/
inductive Answer where
  /-- The token that was called for, if there is one. -/
  | token (t : Option Token)
  /-- The token delivered last, if there is one, will be delivered again. -/
  | handedBack
  /-- A token was pending already. -/
  | fault (fault : LookaheadPending)
  deriving DecidableEq, Repr

/-- What a call tells, and the lexer after it. -/
def call (l : Lexer) : Call → Answer × Lexer
  | .next =>
    match l.next? with
    | some (t, l') => (.token (some t), l')
    | none => (.token none, l)
  | .peek =>
    match l.peek with
    | .ok (t, l') => (.token t, l')
    | .error fault => (.fault fault, l)
  | .unget =>
    match l.unget with
    | .ok l' => (.handedBack, l')
    | .error fault => (.fault fault, l)
  | .current => (.token l.current, l)

/-- What a sequence of calls tells, one call after the other. -/
def answers (l : Lexer) : List Call → List Answer
  | [] => []
  | c :: calls => (l.call c).1 :: (l.call c).2.answers calls

/-- The lexer after a sequence of calls. -/
def after (l : Lexer) : List Call → Lexer
  | [] => l
  | c :: calls => (l.call c).2.after calls

/-- A call at fault changes nothing. -/
theorem call_of_fault {l : Lexer} {c : Call} {fault : LookaheadPending}
    (h : (l.call c).1 = .fault fault) : (l.call c).2 = l := by
  cases c with
  | next => cases hn : l.next? <;> simp [call, hn] at h
  | peek => cases hp : l.peek <;> simp_all [call]
  | unget => cases hu : l.unget <;> simp_all [call]
  | current => rfl

end Lexer

/-! ### Bookmarks -/

/-- A place in a list of tokens. -/
structure Bookmark (tokens : List Token) where
  /-- The number of tokens read. -/
  count : Nat
  /-- Whether the last of them is to be read again. -/
  pending : Bool
  /-- No more tokens are read than there are. -/
  count_le : count ≤ tokens.length
  /-- Only a token that has been read can be read again. -/
  count_pos : pending = true → 0 < count

namespace Bookmark

variable {tokens : List Token}

/-- The place before all tokens. -/
def start (tokens : List Token) : Bookmark tokens :=
  ⟨0, false, Nat.zero_le _, nofun⟩

/-- The token read last. -/
def last (m : Bookmark tokens) (h : 0 < m.count) : Token :=
  tokens.get ⟨m.count - 1, Nat.sub_one_lt_of_le h m.count_le⟩

/-- What a call tells at a place in the list, and the place after it. -/
def call (m : Bookmark tokens) : Lexer.Call → Lexer.Answer × Bookmark tokens
  | .next =>
    if hp : m.pending = true then
      (.token (some (m.last (m.count_pos hp))), ⟨m.count, false, m.count_le, nofun⟩)
    else if hk : m.count < tokens.length then
      (.token (some tokens[m.count]), ⟨m.count + 1, false, hk, nofun⟩)
    else (.token none, m)
  | .peek =>
    if hp : m.pending = true then (.fault ⟨(m.last (m.count_pos hp)).span⟩, m)
    else if hk : m.count < tokens.length then
      (.token (some tokens[m.count]), ⟨m.count + 1, true, hk, fun _ => Nat.succ_pos _⟩)
    else (.token none, m)
  | .unget =>
    if hp : m.pending = true then (.fault ⟨(m.last (m.count_pos hp)).span⟩, m)
    else if hk : 0 < m.count then (.handedBack, ⟨m.count, true, m.count_le, fun _ => hk⟩)
    else (.handedBack, m)
  | .current => (.token (if hk : 0 < m.count then some (m.last hk) else none), m)

/-- What a sequence of calls tells, one call after the other. -/
def answers (m : Bookmark tokens) : List Lexer.Call → List Lexer.Answer
  | [] => []
  | c :: calls => (m.call c).1 :: (m.call c).2.answers calls

/-! ### The lexer at a bookmark -/

variable {source : String}

/-- The lexer of a source that has read as far as a place in its tokens. -/
def lexer (m : Bookmark (ScriptLayout.tokens source)) : Lexer :=
  let l := (Lexer.ofString source).forward m.count
  { l with pending := if m.pending then l.current else none }

theorem lexer_start (source : String) :
    (start (ScriptLayout.tokens source)).lexer = .ofString source := rfl

theorem current_lexer (m : Bookmark (ScriptLayout.tokens source)) :
    m.lexer.current = if hk : 0 < m.count then some (m.last hk) else none := by
  obtain ⟨count, pending, hle, hpos⟩ := m
  cases count with
  | zero => rfl
  | succ count => exact Lexer.current_forward hle

/-- A token handed back is the last one read. -/
theorem pending_lexer (m : Bookmark (ScriptLayout.tokens source)) :
    m.lexer.pending = if hp : m.pending = true then some (m.last (m.count_pos hp)) else none := by
  have hc := current_lexer m
  split_ifs with hp
  · rw [dif_pos (m.count_pos hp)] at hc
    rw [← hc]
    exact if_pos hp
  · exact if_neg hp

/-! What the three calls that move a bookmark do to the lexer there. -/

/-- The token handed back is delivered again. -/
theorem next?_lexer_of_pending {m : Bookmark (ScriptLayout.tokens source)}
    (hp : m.pending = true) : m.lexer.next? = some (m.last (m.count_pos hp),
      lexer ⟨m.count, false, m.count_le, nofun⟩) := by
  have hpending := pending_lexer m
  have hcurrent := current_lexer m
  rw [dif_pos hp] at hpending
  rw [dif_pos (m.count_pos hp)] at hcurrent
  rw [Lexer.next?, hpending]
  refine congrArg (fun l => some (m.last _, l)) ?_
  rw [← hcurrent]
  rfl

/-- Without a token handed back, the lexer is the one after so many tokens. -/
theorem lexer_of_not_pending {m : Bookmark (ScriptLayout.tokens source)}
    (hp : ¬ m.pending = true) : m.lexer = (Lexer.ofString source).forward m.count := by
  have h := @Lexer.pending_forward (.ofString source) rfl m.count
  dsimp only [lexer]
  rw [if_neg hp, ← h]

theorem next?_lexer_of_lt {m : Bookmark (ScriptLayout.tokens source)} (hp : ¬ m.pending = true)
    (hk : m.count < (ScriptLayout.tokens source).length) :
    m.lexer.next? = some ((ScriptLayout.tokens source)[m.count],
      lexer ⟨m.count + 1, false, hk, nofun⟩) := by
  rw [lexer_of_not_pending hp, lexer_of_not_pending Bool.false_ne_true]
  exact Lexer.next?_forward_of_lt hk

theorem next?_lexer_of_ge {m : Bookmark (ScriptLayout.tokens source)} (hp : ¬ m.pending = true)
    (hk : ¬ m.count < (ScriptLayout.tokens source).length) : m.lexer.next? = none := by
  rw [lexer_of_not_pending hp, Lexer.next?_forward]
  exact congrArg _ (List.getElem?_eq_none (Nat.le_of_not_lt hk))

/-- Handing back the token read last. -/
theorem unget_lexer {m : Bookmark (ScriptLayout.tokens source)} (hp : ¬ m.pending = true)
    (hk : 0 < m.count) :
    m.lexer.unget = .ok (lexer ⟨m.count, true, m.count_le, fun _ => hk⟩) := by
  have hpending := pending_lexer m
  rw [dif_neg hp] at hpending
  rw [Lexer.unget, hpending]
  rfl

/-- Before all tokens there is none to hand back. -/
theorem unget_lexer_of_zero {m : Bookmark (ScriptLayout.tokens source)} (hp : ¬ m.pending = true)
    (hk : ¬ 0 < m.count) : m.lexer.unget = .ok m.lexer := by
  have hpending := pending_lexer m
  have hcurrent := current_lexer m
  rw [dif_neg hp] at hpending
  rw [dif_neg hk] at hcurrent
  generalize m.lexer = l at hpending hcurrent
  cases l
  subst hpending hcurrent
  rfl

/-- A bookmark and the lexer there answer alike, and stay together. -/
theorem call_lexer (m : Bookmark (ScriptLayout.tokens source)) (c : Lexer.Call) :
    m.lexer.call c = ((m.call c).1, (m.call c).2.lexer) := by
  have hpending := pending_lexer m
  cases c with
  | next =>
    simp only [Lexer.call, call]
    split_ifs with hp hk
    · rw [next?_lexer_of_pending hp]
    · rw [next?_lexer_of_lt hp hk]
    · rw [next?_lexer_of_ge hp hk]
  | peek =>
    simp only [Lexer.call, call, Lexer.peek, hpending]
    split_ifs with hp hk
    · rfl
    · -- The token looked at is delivered, and handed back at once.
      have hunget := unget_lexer (m := ⟨m.count + 1, false, hk, nofun⟩) Bool.false_ne_true
        (Nat.succ_pos _)
      simp only [next?_lexer_of_lt hp hk, hunget, Except.map]
    · simp only [next?_lexer_of_ge hp hk]
  | unget =>
    simp only [Lexer.call, call]
    split_ifs with hp hk
    · rw [dif_pos hp] at hpending
      simp only [Lexer.unget, hpending]
    · rw [unget_lexer hp hk]
    · rw [unget_lexer_of_zero hp hk]
  | current => rw [Lexer.call, call, current_lexer]

/-- A bookmark and the lexer there answer every sequence of calls alike. -/
theorem answers_lexer (m : Bookmark (ScriptLayout.tokens source)) (calls : List Lexer.Call) :
    m.lexer.answers calls = m.answers calls := by
  induction calls generalizing m with
  | nil => rfl
  | cons c calls ih => rw [Lexer.answers, answers, call_lexer, ih]

end Bookmark

/-- In whatever order a lexer is called, it answers as a bookmark in the list of
    the tokens of the source does, and a call at fault leaves it as it is. -/
theorem answers_ofString (source : String) (calls : List Lexer.Call) :
    (Lexer.ofString source).answers calls = (Bookmark.start (tokens source)).answers calls ∧
      ∀ (c : Lexer.Call) (fault : LookaheadPending),
        (((Lexer.ofString source).after calls).call c).1 = .fault fault →
          (((Lexer.ofString source).after calls).call c).2 =
            (Lexer.ofString source).after calls := by
  refine ⟨?_, fun _ _ => Lexer.call_of_fault⟩
  rw [← Bookmark.lexer_start, Bookmark.answers_lexer]

/-- A slash that is looked at after a name, and once more while it is pending. -/
theorem answers_ofString_slash :
    (Lexer.ofString "a /b").answers [.next, .peek, .peek, .next, .unget] =
        (Bookmark.start (tokens "a /b")).answers [.next, .peek, .peek, .next, .unget] ∧
      (((Lexer.ofString "a /b").after [.next, .peek]).call .peek).1 = .fault ⟨⟨1, 3, 1⟩⟩ ∧
      (((Lexer.ofString "a /b").after [.next, .peek]).call .peek).2 =
        (Lexer.ofString "a /b").after [.next, .peek] :=
  ⟨(answers_ofString "a /b" [.next, .peek, .peek, .next, .unget]).1, rfl,
    (answers_ofString "a /b" [.next, .peek]).2 .peek ⟨⟨1, 3, 1⟩⟩ rfl⟩

end ScriptLayout
