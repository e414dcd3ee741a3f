import ScriptLayout.Toml.Quoted

/-!
# Flat TOML documents

Documents that give texts and truth values to keys, one on each line. They are
read in two steps: into what stands on the lines, without spaces and comments
(`items?`), and then line by line (`entries?`). A document with tables, dotted
keys or values of other types is not flat, and is refused like one that is
malformed.
-/

namespace ScriptLayout.Toml

/-- A value of a flat document. -/
inductive Value where
  /-- A text. -/
  | text (content : String)
  /-- A truth value. -/
  | flag (holds : Bool)
  deriving DecidableEq, Repr

/-- What stands on a line. -/
inductive Item where
  /-- A run of ASCII letters, digits, hyphens and underscores. -/
  | word (content : String)
  /-- A string, and whether it may go over several lines. -/
  | string (content : String) (long : Bool)
  /-- The equals sign. -/
  | equals
  /-- The end of a line. -/
  | lineEnd
  deriving DecidableEq, Repr

/-- Whether a character may stand in a word. -/
def isWordPart (c : Char) : Bool :=
  c.isAlphanum || c == '-' || c == '_'

/-- The text with each line break made a line feed. What is left of carriage
    returns breaks no line. -/
def unifyLineBreaks : List Char → List Char
  | [] => []
  | [c] => [c]
  | c :: d :: text =>
    if c = '\r' ∧ d = '\n' then '\n' :: unifyLineBreaks text
    else c :: unifyLineBreaks (d :: text)

/-- What stands on the lines of a text. -/
def items? : List Char → Option (List Item)
  | [] => some []
  | c :: text =>
    if isSpace c then items? text
    else if c = '\n' then (items? text).map (.lineEnd :: ·)
    else if c = '=' then (items? text).map (.equals :: ·)
    else if c = '#' then
      let comment := text.takeWhile (· != '\n')
      if comment.any isControl then none else items? (text.drop comment.length)
    else if c = '"' ∨ c = '\x27' then
      match quoted? c text with
      | some (form, content, extent) =>
        (items? (text.drop extent)).map (.string content form.long :: ·)
      | none => none
    else if isWordPart c then
      let more := text.takeWhile isWordPart
      (items? (text.drop more.length)).map (.word (String.ofList (c :: more)) :: ·)
    else none
termination_by text => text.length
decreasing_by all_goals simp only [List.length_cons, List.length_drop]; omega

/-- The key that an item is. -/
def Item.key? : Item → Option String
  | .word content => some content
  | .string content false => some content
  | _ => none

/-- The value that an item is. -/
def Item.value? : Item → Option Value
  | .word content =>
    if content = "true" then some (.flag true)
    else if content = "false" then some (.flag false)
    else none
  | .string content _ => some (.text content)
  | _ => none

/-- The keys and values on the lines, in order. -/
def entries? : List Item → Option (List (String × Value))
  | [] => some []
  | .lineEnd :: items => entries? items
  | [key, .equals, value] => do return [(← key.key?, ← value.value?)]
  | key :: .equals :: value :: .lineEnd :: items => do
    let entry := (← key.key?, ← value.value?)
    return entry :: (← entries? items)
  | _ => none

/-- Reads a flat document, which may begin with a byte order mark, and in which
    no key is given twice. -/
def read? (document : String) : Option (List (String × Value)) := do
  let text := document.toList
  let text := if text.head? == some '\ufeff' then text.tail else text
  let entries ← entries? (← items? (unifyLineBreaks text))
  if (entries.map Prod.fst).Nodup then some entries else none

end ScriptLayout.Toml
