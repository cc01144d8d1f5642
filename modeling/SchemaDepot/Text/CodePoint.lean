/-
# Code points

A text is a sequence of code points. Those from U+D800 to U+DFFF stand for no
character, yet an escape can name them. Such a code point is held as a character
of the block from U+DD800 to U+DDFFF, to which Unicode assigns none, and wherever
its number counts it has its own.

A file name is made of bytes. The code points U+DC80 to U+DCFF stand for single
bytes there, the others without a character cannot be written.

Not covered: a text that has one of the characters U+DD800 to U+DDFFF itself. It
would be taken for one with the code point held there, wherever the number of a
code point counts: in the order of texts, in an escape and in a file name.

Key definitions: `Text.ofCodePoint`, `Text.codePoint`, `Text.hasNoBytes`,
`Text.fileSize`.
Key theorem: `Text.codePoint_ofCodePoint`.
-/

namespace SchemaDepot.Text

/-- The code point stands for no character. -/
def isSurrogate (code : Nat) : Bool := 0xD800 ≤ code && code ≤ 0xDFFF

/-- How far from its own number a code point without a character is held. -/
def heldApart : Nat := 0xD0000

/-- The character that holds a code point up to U+10FFFF. -/
def ofCodePoint (code : Nat) : Char :=
  if isSurrogate code then Char.ofNat (code + heldApart) else Char.ofNat code

/-- The code point that a character holds. -/
def codePoint (c : Char) : Nat :=
  if isSurrogate (c.toNat - heldApart) then c.toNat - heldApart else c.toNat

/-- The character holds a code point that no file name can have. -/
def hasNoBytes (c : Char) : Bool :=
  isSurrogate (codePoint c) && !(0xDC80 ≤ codePoint c && codePoint c ≤ 0xDCFF)

/-- How many bytes a text has as a file name, if each of its characters has bytes there. -/
def fileSize (s : String) : Nat :=
  s.toList.foldl (fun n c => n + if isSurrogate (codePoint c) then 1 else c.utf8Size) 0

/-- A code point without a character keeps its number. -/
theorem codePoint_ofCodePoint {code : Nat} (h : isSurrogate code = true) :
    codePoint (ofCodePoint code) = code := by
  have hr : 0xD800 ≤ code ∧ code ≤ 0xDFFF := by simpa [isSurrogate] using h
  have hv : (code + heldApart).isValidChar := Or.inr (by unfold heldApart; omega)
  have hn : (Char.ofNat (code + heldApart)).toNat = code + heldApart := by
    rw [Char.ofNat, dif_pos hv]
    rfl
  simp [ofCodePoint, codePoint, h, hn]

end SchemaDepot.Text
