/-
# Digits and numerals

Unicode assigns the decimal digits of each script to ten consecutive code
points. A digit is known by the zero its group starts with.

Before a number is read, its text is brought into ASCII: a decimal digit of any
script becomes the digit of the same value, a blank outside ASCII becomes a
space, and at any other character outside ASCII the text is cut off with a mark
that no number holds. A text in ASCII stays as it is. Then spaces, tabs and line
breaks around the number do not count; the separators U+001C to U+001F are no
blanks here.

Key definitions: `Text.digit?`, `Text.asciiNumeral`, `Text.isNumeralGap`, `Text.trimNumeral`.
Key theorem: `Text.asciiNumeral_of_ascii`.
-/
import SchemaDepot.Text.Blank

namespace SchemaDepot.Text

/-- The zeros the groups of ten decimal digits start with, in Unicode 14.0. -/
def digitZeros : List Nat := [
   0x30, 0x660, 0x6F0, 0x7C0, 0x966, 0x9E6, 0xA66, 0xAE6, 0xB66, 0xBE6, 0xC66, 0xCE6, 0xD66,
   0xDE6, 0xE50, 0xED0, 0xF20, 0x1040, 0x1090, 0x17E0, 0x1810, 0x1946, 0x19D0, 0x1A80, 0x1A90,
   0x1B50, 0x1BB0, 0x1C40, 0x1C50, 0xA620, 0xA8D0, 0xA900, 0xA9D0, 0xA9F0, 0xAA50, 0xABF0,
   0xFF10, 0x104A0, 0x10D30, 0x11066, 0x110F0, 0x11136, 0x111D0, 0x112F0, 0x11450, 0x114D0,
   0x11650, 0x116C0, 0x11730, 0x118E0, 0x11950, 0x11C50, 0x11D50, 0x11DA0, 0x16A60, 0x16AC0,
   0x16B50, 0x1D7CE, 0x1D7D8, 0x1D7E2, 0x1D7EC, 0x1D7F6, 0x1E140, 0x1E2F0, 0x1E950, 0x1FBF0]

/-- The value of a decimal digit of any script. -/
def digit? (c : Char) : Option Nat :=
  (digitZeros.find? fun z => z ≤ c.toNat && c.toNat < z + 10).map fun z => c.toNat - z

/-- A digit from 0 to 9 of the ASCII alphabet. -/
def isAsciiDigit (c : Char) : Bool := '0' ≤ c && c ≤ '9'

/-- A character of the ASCII alphabet. -/
def isAscii (c : Char) : Bool := c.toNat < 0x80

/-- Characters brought into ASCII, up to the first that has no place there. -/
def intoAscii : List Char → List Char
  | [] => []
  | c :: cs =>
    if c.toNat < 0x7F then c :: intoAscii cs
    else if isBlankChar c then ' ' :: intoAscii cs
    else match digit? c with
      | some n => Nat.digitChar n :: intoAscii cs
      | none => ['?']

/-- The text of a number in ASCII. -/
def asciiNumeral (cs : List Char) : List Char := if cs.all isAscii then cs else intoAscii cs

/-- A blank that may stand around a number. -/
def isNumeralGap (c : Char) : Bool := c = ' ' || ('\t' ≤ c && c ≤ '\r')

/-- The text of a number in ASCII, without the gaps around it. -/
def trimNumeral (cs : List Char) : List Char :=
  (((asciiNumeral cs).dropWhile isNumeralGap).reverse.dropWhile isNumeralGap).reverse

/-- A text in ASCII stays as it is. -/
theorem asciiNumeral_of_ascii {cs : List Char} (h : cs.all isAscii = true) :
    asciiNumeral cs = cs := by
  simp only [asciiNumeral, h, if_true]

end SchemaDepot.Text
