import ScriptPlugins.Text.Letter.Table

/-!
# Letters, numerals and blanks

The character classes that identifiers and whitespace are made of. Each class is the Unicode
property of its name; its ASCII part is spelled out, so that it can be reasoned about without the
tables.
-/

namespace ScriptPlugins.Text

/-- The Unicode property *Alphabetic*. -/
def isLetter (c : Char) : Bool :=
  if c.toNat < 0x80 then c.isAlpha else Letter.letterRanges.any (·.holds c.toNat)

/-- The general categories Nd, Nl and No. -/
def isNumeral (c : Char) : Bool :=
  if c.toNat < 0x80 then c.isDigit else Letter.numeralRanges.any (·.holds c.toNat)

/-- The Unicode property *White_Space*. -/
def isBlank (c : Char) : Bool :=
  let code := c.toNat
  code == 0x20 || (decide (0x9 ≤ code) && decide (code ≤ 0xD)) || code == 0x85 || code == 0xA0 ||
    code == 0x1680 || (decide (0x2000 ≤ code) && decide (code ≤ 0x200A)) || code == 0x2028 ||
    code == 0x2029 || code == 0x202F || code == 0x205F || code == 0x3000

/-- The blanks of ASCII without the vertical tab. -/
def isAsciiBlank (c : Char) : Bool :=
  c == ' ' || c == '\t' || c == '\n' || c == '\x0c' || c == '\r'

/-- A text without the blanks at its end. -/
def trimEnd (text : List Char) : List Char :=
  (text.reverse.dropWhile isBlank).reverse

/-- A text without the blanks at either end. -/
def trim (text : List Char) : List Char :=
  trimEnd (text.dropWhile isBlank)

end ScriptPlugins.Text
