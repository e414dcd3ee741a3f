import ScriptLayout.Text.Ranges

/-!
# Blanks

The characters that separate tokens and mean nothing else: those with the
Unicode property White_Space. Line breaks are among them.
-/

namespace ScriptLayout.Text

/-- The ranges of White_Space. -/
def blanks : Ranges :=
  [(0x9, 0xD), (0x20, 0x20), (0x85, 0x85), (0xA0, 0xA0), (0x1680, 0x1680), (0x2000, 0x200A),
   (0x2028, 0x2029), (0x202F, 0x202F), (0x205F, 0x205F), (0x3000, 0x3000)]

/-- Whether a character is blank. -/
def isBlank (c : Char) : Bool :=
  blanks.contains c

end ScriptLayout.Text
