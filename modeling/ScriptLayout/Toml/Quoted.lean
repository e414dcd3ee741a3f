/-!
# Quoted text in TOML

The four forms of a string: between double quotes, where a backslash begins an
escape, or between single quotes, where nothing does; and either between three
quotes at a time, where the text may go over several lines. First the extent of
a string is found (`bodyExtent?`), in which a backslash hides the character
after it, and then its body is read (`Form.read?`). Line breaks are line feeds
here.
-/

namespace ScriptLayout.Toml

/-- Whether a character may not stand in a document by itself: a control
    character other than the tab. -/
def isControl (c : Char) : Bool :=
  (c.toNat < 0x20 && c != '\t') || c.toNat == 0x7F

/-- Whether a character separates what stands on one line. -/
def isSpace (c : Char) : Bool :=
  c == ' ' || c == '\t'

/-- How a string is delimited. -/
structure Form where
  /-- The quote. -/
  quote : Char
  /-- Whether there are three quotes at either end. -/
  long : Bool
  deriving DecidableEq, Repr

namespace Form

/-- Whether a backslash begins an escape. -/
def hasEscapes (form : Form) : Bool :=
  form.quote == '"'

/-- The number of quotes at either end. -/
def delimiterExtent (form : Form) : Nat :=
  if form.long then 3 else 1

end Form

/-- The number of characters before the closing delimiter. Of more than three
    quotes in a row, up to two belong to the body. -/
def bodyExtent? (form : Form) : List Char → Option Nat
  | [] => none
  | [c] => if c = form.quote ∧ !form.long then some 0 else none
  | c :: d :: text =>
    if c = form.quote then
      if !form.long then some 0
      else if [form.quote, form.quote].isPrefixOf (d :: text) then
        some (min 2 (text.tail.takeWhile (· == form.quote)).length)
      else (bodyExtent? form (d :: text)).map (1 + ·)
    else if c = '\\' ∧ form.hasEscapes then (bodyExtent? form text).map (2 + ·)
    else (bodyExtent? form (d :: text)).map (1 + ·)

/-- The character that a letter stands for after a backslash. -/
def escape? : Char → Option Char
  | 'b' => some '\x08'
  | 't' => some '\t'
  | 'n' => some '\n'
  | 'f' => some '\x0c'
  | 'r' => some '\r'
  | '"' => some '"'
  | '\\' => some '\\'
  | _ => none

/-- The value of a hexadecimal digit. -/
def hexDigit? (c : Char) : Option Nat :=
  if '0' ≤ c ∧ c ≤ '9' then some (c.toNat - '0'.toNat)
  else if 'a' ≤ c ∧ c ≤ 'f' then some (c.toNat - 'a'.toNat + 10)
  else if 'A' ≤ c ∧ c ≤ 'F' then some (c.toNat - 'A'.toNat + 10)
  else none

/-- The character with the given code point, in hexadecimal digits. -/
def scalar? (digits : List Char) : Option Char := do
  let values ← digits.mapM hexDigit?
  let n := values.foldl (fun n digit => 16 * n + digit) 0
  if n.isValidChar then some (Char.ofNat n) else none

/-- The text that the body of a string with escapes stands for. A backslash
    before the end of a line takes along all spaces and line breaks that follow;
    while they are being skipped, `skipping` holds. -/
def unescape? (long skipping : Bool) : List Char → Option (List Char)
  | [] => some []
  | '\\' :: 'u' :: a :: b :: c :: d :: text => do
    let x ← scalar? [a, b, c, d]
    return x :: (← unescape? long false text)
  | '\\' :: 'U' :: a :: b :: c :: d :: e :: f :: g :: h :: text => do
    let x ← scalar? [a, b, c, d, e, f, g, h]
    return x :: (← unescape? long false text)
  | '\\' :: c :: text =>
    if isSpace c || c == '\n' then
      if long && ((c :: text).dropWhile isSpace).head? == some '\n' then unescape? long true text
      else none
    else do
      let x ← escape? c
      return x :: (← unescape? long false text)
  | ['\\'] => none
  | c :: text =>
    if skipping && (isSpace c || c == '\n') then unescape? long true text
    else if isControl c && !(long && c == '\n') then none
    else do return c :: (← unescape? long false text)

/-- The text that the body of a string stands for. A line break at the start of
    a long one does not count. -/
def Form.read? (form : Form) (body : List Char) : Option (List Char) :=
  let body := if form.long && body.head? == some '\n' then body.tail else body
  if form.hasEscapes then unescape? form.long false body
  else if body.any fun c => isControl c && !(form.long && c == '\n') then none
  else some body

/-- Reads the string that a quote and the text after it begin with: its form,
    the text that it stands for, and how many characters it takes after the
    quote. -/
def quoted? (quote : Char) (text : List Char) : Option (Form × String × Nat) := do
  let form : Form := ⟨quote, [quote, quote].isPrefixOf text⟩
  let opening := form.delimiterExtent - 1
  let extent ← bodyExtent? form (text.drop opening)
  let content ← form.read? ((text.drop opening).take extent)
  return (form, String.ofList content, opening + extent + form.delimiterExtent)

end ScriptLayout.Toml
