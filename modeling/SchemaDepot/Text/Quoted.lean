/-
# Quoted texts

A text inside a message is shown between quotes when its own bounds matter. The
quote is an apostrophe, unless the text holds an apostrophe and no double quote.
The quote in use and the backslash are escaped by a backslash, line feed,
carriage return and tab by their letters, and every other character that is not
printable by its code point in hexadecimal: two digits after `\x`, four after
`\u` or eight after `\U`, whichever is the first that fits.

Key definitions: `Text.quoteMark`, `Text.escapeChar`, `Text.quoted`.
-/
import SchemaDepot.Text.CodePoint
import SchemaDepot.Text.Printable

namespace SchemaDepot.Text

/-- The last `width` hexadecimal digits of a number, in lower case. -/
def hexDigits : (width : Nat) → Nat → List Char
  | 0, _ => []
  | width + 1, n => hexDigits width (n / 16) ++ [Nat.digitChar (n % 16)]

/-- The mark a text is quoted with. -/
def quoteMark (cs : List Char) : Char :=
  if cs.contains '\'' && !cs.contains '"' then '"' else '\''

/-- What stands for one character between two marks. -/
def escapeChar (mark c : Char) : List Char :=
  if c = mark ∨ c = '\\' then ['\\', c]
  else if c = '\n' then ['\\', 'n']
  else if c = '\r' then ['\\', 'r']
  else if c = '\t' then ['\\', 't']
  else if isPrintable c then [c]
  else if codePoint c < 0x100 then '\\' :: 'x' :: hexDigits 2 (codePoint c)
  else if codePoint c < 0x10000 then '\\' :: 'u' :: hexDigits 4 (codePoint c)
  else '\\' :: 'U' :: hexDigits 8 (codePoint c)

/-- The characters between quotes. -/
def quotedList (cs : List Char) : List Char :=
  quoteMark cs :: (cs.flatMap (escapeChar (quoteMark cs)) ++ [quoteMark cs])

/-- The text between quotes. -/
def quoted (s : String) : String := String.ofList (quotedList s.toList)

end SchemaDepot.Text
