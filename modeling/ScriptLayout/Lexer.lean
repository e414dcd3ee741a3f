import ScriptLayout.Cursor
import ScriptLayout.Lexeme.Scan
import ScriptLayout.Text.Blank
import ScriptLayout.Token

/-!
# The lexer

A lexer delivers the tokens of a source one at a time. The token delivered last
may be handed back once, to be delivered again by the next call (`unget`), and
looking at the next token is delivering it and handing it back (`peek`). Handing
back while a token is pending is the one fault there is (`LookaheadPending`);
no text is at fault, for every text has tokens up to its end (`tokens`).

The tokens end because each takes at least one character
(`Lexeme.measure_pos`), so that delivering decreases `Lexer.remaining`
(`remaining_of_next?`).
-/

namespace ScriptLayout

/-- The fault of handing back a token while another one is pending. -/
structure LookaheadPending where
  /-- Where the pending token stands. -/
  span : Span
  deriving DecidableEq, Repr

/-- The wording of the fault. -/
def LookaheadPending.message (fault : LookaheadPending) : String :=
  "token already pending at " ++ fault.span.place ++ ": only one token of lookahead is supported"

/-- Reads the token that comes next, after blanks, when `previous` came before. -/
def Cursor.token? (c : Cursor) (previous : Option Lexeme) : Option (Token × Cursor) :=
  let start := c.skipWhile Text.isBlank
  match start.ahead with
  | [] => none
  | x :: rest =>
    let (kind, extent) := Lexeme.measure previous x rest
    let text := (x :: rest).take extent
    let token : Token :=
      { kind
        text := String.ofList text
        span := ⟨start.position.line, start.position.column, Text.size text⟩
        previous }
    some (token, start.advanceBy extent)

/-- Reading a token shortens the unread text. -/
theorem Cursor.length_ahead_of_token? {c c' : Cursor} {previous : Option Lexeme} {t : Token}
    (h : c.token? previous = some (t, c')) : c'.ahead.length < c.ahead.length := by
  simp only [token?] at h
  split at h
  · exact absurd h (by simp)
  · next x rest hstart =>
    obtain ⟨-, rfl⟩ := Prod.mk.inj (Option.some.inj h)
    have hle : (c.skipWhile Text.isBlank).ahead.length ≤ c.ahead.length := by
      rw [skipWhile, ahead_advanceBy, List.length_drop]
      exact Nat.sub_le ..
    have hpos := Lexeme.measure_pos previous x rest
    rw [hstart, List.length_cons] at hle
    rw [ahead_advanceBy, hstart, List.length_drop, List.length_cons]
    omega

/-- A source being read token by token. -/
structure Lexer where
  /-- The place up to which the source has been read. -/
  cursor : Cursor
  /-- The token delivered last. -/
  current : Option Token
  /-- The token handed back, to be delivered next. -/
  pending : Option Token
  deriving DecidableEq, Repr

namespace Lexer

/-- A lexer at the start of a source. -/
def ofString (source : String) : Lexer :=
  ⟨.ofString source, none, none⟩

/-- Delivers the next token, if there is one: the pending one, or else one read
    from the source. -/
def next? (l : Lexer) : Option (Token × Lexer) :=
  match l.pending with
  | some t => some (t, { l with current := some t, pending := none })
  | none =>
    match l.cursor.token? (l.current.map Token.toLexeme) with
    | some (t, cursor) => some (t, ⟨cursor, some t, none⟩)
    | none => none

/-- Hands back the token delivered last. -/
def unget (l : Lexer) : Except LookaheadPending Lexer :=
  match l.pending with
  | some t => .error ⟨t.span⟩
  | none => .ok { l with pending := l.current }

/-- Looks at the next token, if there is one. -/
def peek (l : Lexer) : Except LookaheadPending (Option Token × Lexer) :=
  match l.pending with
  | some t => .error ⟨t.span⟩
  | none =>
    match l.next? with
    | none => .ok (none, l)
    | some (t, l) => l.unget.map (some t, ·)

/-! ### Reading to the end -/

/-- A bound on the number of tokens still to be delivered: the unread characters
    and the pending token. -/
def remaining (l : Lexer) : Nat :=
  l.cursor.ahead.length + if l.pending.isSome then 1 else 0

/-- Delivering a token brings the end nearer, and leaves none pending. -/
theorem remaining_of_next? {l l' : Lexer} {t : Token} (h : l.next? = some (t, l')) :
    l'.remaining < l.remaining ∧ l'.pending = none := by
  unfold next? at h
  split at h
  · next hp =>
    obtain ⟨-, rfl⟩ := Prod.mk.inj (Option.some.inj h)
    simp [remaining, hp]
  · next hp =>
    split at h
    · next ht =>
      obtain ⟨-, rfl⟩ := Prod.mk.inj (Option.some.inj h)
      simpa [remaining, hp] using Cursor.length_ahead_of_token? ht
    · exact absurd h (by simp)

/-- Looking ahead delays the end by nothing. -/
theorem remaining_of_peek {l l' : Lexer} {t : Option Token} (h : l.peek = .ok (t, l')) :
    l'.remaining ≤ l.remaining := by
  unfold peek at h
  split at h
  · exact absurd h (by simp)
  · split at h
    · obtain ⟨-, rfl⟩ := Prod.mk.inj (Except.ok.inj h)
      exact Nat.le_refl _
    · next hn =>
      obtain ⟨hlt, hp⟩ := remaining_of_next? hn
      simp only [unget, hp, Except.map] at h
      obtain ⟨-, rfl⟩ := Prod.mk.inj (Except.ok.inj h)
      simp only [remaining, hp] at hlt ⊢
      simp only [Option.isSome_none, Bool.false_eq_true, if_false] at hlt
      split <;> omega

/-- The tokens that are still to be delivered. -/
def toList (l : Lexer) : List Token :=
  match _h : l.next? with
  | none => []
  | some (t, l') => t :: l'.toList
termination_by l.remaining
decreasing_by exact (remaining_of_next? _h).1

end Lexer

/-- The tokens of a source. -/
def tokens (source : String) : List Token :=
  (Lexer.ofString source).toList

/-- The lexemes of a source. -/
def lexemes (source : String) : List Lexeme :=
  (tokens source).map Token.toLexeme

end ScriptLayout
