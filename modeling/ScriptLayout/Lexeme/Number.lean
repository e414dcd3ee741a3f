/-!
# Number literals

There are three forms. A zero and the letter X introduce hexadecimal digits, of
which there may be none. A zero and another digit begin a run of octal digits.
Everything else is decimal: digits with at most one point and at most one
exponent mark, which a sign may follow; none of the three needs a digit next to
it.
-/

namespace ScriptLayout.Lexeme

/-- Whether a character is an octal digit. -/
def isOctalDigit (c : Char) : Bool :=
  '0' ≤ c && c ≤ '7'

/-- Whether a character is a hexadecimal digit, in either case. -/
def isHexDigit (c : Char) : Bool :=
  c.isDigit || ('a' ≤ c && c ≤ 'f') || ('A' ≤ c && c ≤ 'F')

/-- Whether a character marks an exponent. -/
def isExponentMark (c : Char) : Bool :=
  c == 'e' || c == 'E'

/-- Whether a character is a sign. -/
def isSign (c : Char) : Bool :=
  c == '+' || c == '-'

/-- The number of characters by which a decimal number goes on, when it had a
    point and an exponent already or not. -/
def decimalExtent (point exponent : Bool) : List Char → Nat
  | [] => 0
  | c :: text =>
    if c.isDigit then 1 + decimalExtent point exponent text
    else if c = '.' ∧ point = false then 1 + decimalExtent true exponent text
    else if isExponentMark c ∧ exponent = false then
      match text with
      | [] => 1
      | d :: rest =>
        if isSign d then 2 + decimalExtent point true rest
        else 1 + decimalExtent point true (d :: rest)
    else 0

/-- The number of characters of the number that a text starts with. -/
def numberExtent (text : List Char) : Nat :=
  match text with
  | '0' :: c :: rest =>
    if c = 'x' ∨ c = 'X' then 2 + (rest.takeWhile isHexDigit).length
    else if c.isDigit then (text.takeWhile isOctalDigit).length
    else decimalExtent false false text
  | _ => decimalExtent false false text

theorem decimalExtent_pos {c : Char} {exponent : Bool} (text : List Char)
    (h : c.isDigit ∨ c = '.') : 0 < decimalExtent false exponent (c :: text) := by
  unfold decimalExtent
  split
  · omega
  · next hd =>
    obtain rfl := h.resolve_left hd
    simp only [and_self, if_true]
    omega

theorem numberExtent_pos {c : Char} (text : List Char) (h : c.isDigit ∨ c = '.') :
    0 < numberExtent (c :: text) := by
  unfold numberExtent
  split
  · next heq =>
    obtain ⟨rfl, rfl⟩ := List.cons.inj heq
    split
    · omega
    · split
      · simp [isOctalDigit]
      · exact decimalExtent_pos _ h
  · exact decimalExtent_pos _ h

end ScriptLayout.Lexeme
