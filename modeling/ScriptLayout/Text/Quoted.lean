import ScriptLayout.Text.Masked

/-!
# Quoted text

A text between double quotes in which nothing is left to the imagination: the
quote and the backslash are preceded by a backslash, line breaks, tabs and the
null character have their customary letters, and every other masked character
is shown by its code point.
-/

namespace ScriptLayout.Text

/-- The lower-case hexadecimal digits of a code point, without leading zeros. -/
def codePoint (c : Char) : String :=
  String.ofList (Nat.toDigits 16 c.toNat)

/-- A character as it stands in a quotation. -/
def quotedChar (c : Char) : String :=
  if c = '"' then "\\\""
  else if c = '\\' then "\\\\"
  else if c = '\n' then "\\n"
  else if c = '\r' then "\\r"
  else if c = '\t' then "\\t"
  else if c = '\x00' then "\\0"
  else if isMasked c then "\\u\x7b" ++ codePoint c ++ "\x7d"
  else c.toString

/-- The quotation of a text. -/
def quoted (text : String) : String :=
  "\"" ++ String.join (text.toList.map quotedChar) ++ "\""

end ScriptLayout.Text
