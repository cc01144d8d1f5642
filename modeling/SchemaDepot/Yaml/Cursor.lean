/-
# Positions in a document

A document is read character by character, from left to right. A cursor holds
what is still to be read, how many characters were read, and the line and the
column it stands at. The end of the document is shown as U+0000, which no
document holds.

Key definitions: `Yaml.Cursor`, `Yaml.Cursor.step`, `Yaml.Cursor.takeWhile`,
`Yaml.Cursor.lineBreak`.
-/

namespace SchemaDepot.Yaml

/-- What stands after the last character. -/
def endMark : Char := '\x00'

/-- A character that ends a line. -/
def isBreak (c : Char) : Bool :=
  c = '\n' || c = '\r' || c = '\x85' || c = '\u2028' || c = '\u2029'

/-- The end of a line or of the document. -/
def isBreakOrEnd (c : Char) : Bool := isBreak c || c = endMark

/-- A space, or the end of a line or of the document. -/
def isSpaceOrEnd (c : Char) : Bool := c = ' ' || isBreakOrEnd c

/-- A space, a tab, or the end of a line or of the document. -/
def isGap (c : Char) : Bool := c = '\t' || isSpaceOrEnd c

/-- A space or a tab. -/
def isSpaceOrTab (c : Char) : Bool := c = ' ' || c = '\t'

/-- A character of the name of an anchor, a directive or a tag handle. -/
def isNameChar (c : Char) : Bool := c.isAlphanum || c = '-' || c = '_'

/-- A place in a document. -/
structure Cursor where
  rest : List Char
  /-- How many characters were read. -/
  index : Nat
  line : Nat
  column : Nat

namespace Cursor

/-- The place before the first character. -/
def start (cs : List Char) : Cursor := ⟨cs, 0, 0, 0⟩

/-- The character some places ahead. -/
def peekAt (c : Cursor) (n : Nat) : Char := (c.rest[n]?).getD endMark

/-- The next character. -/
def peek (c : Cursor) : Char := c.peekAt 0

/-- The place after the next character. A byte order mark takes no column. -/
def step (c : Cursor) : Cursor :=
  match c.rest with
  | [] => c
  | x :: xs =>
    if (isBreak x && x != '\r') || (x = '\r' && xs.head? ≠ some '\n') then
      ⟨xs, c.index + 1, c.line + 1, 0⟩
    else ⟨xs, c.index + 1, c.line, if x = '\uFEFF' then c.column else c.column + 1⟩

/-- The place some characters ahead. -/
def skip (c : Cursor) : Nat → Cursor
  | 0 => c
  | n + 1 => c.step.skip n

/-- The characters up to the first that fails a test, and the place there. -/
def takeWhile (p : Char → Bool) (c : Cursor) : List Char × Cursor :=
  let run := c.rest.takeWhile p
  (run, c.skip run.length)

/-- The place at the first character that fails a test. -/
def skipWhile (p : Char → Bool) (c : Cursor) : Cursor := (c.takeWhile p).2

/-- Reads one line break, if there is one. The breaks that the ASCII alphabet
knows, and U+0085, count as a line feed. -/
def lineBreak (c : Cursor) : List Char × Cursor :=
  match c.rest with
  | '\r' :: '\n' :: _ => (['\n'], c.skip 2)
  | x :: _ =>
    if x = '\r' || x = '\n' || x = '\x85' then (['\n'], c.step)
    else if x = '\u2028' || x = '\u2029' then ([x], c.step)
    else ([], c)
  | [] => ([], c)

/-- The document boundary `---` or `...` stands here, with a gap after it. -/
def atBoundary (c : Cursor) : Bool :=
  ((['-', '-', '-'].isPrefixOf c.rest) || (['.', '.', '.'].isPrefixOf c.rest)) && isGap (c.peekAt 3)

/-- The place after spaces and a comment. -/
def skipComment (c : Cursor) : Cursor :=
  let c := c.skipWhile (· = ' ')
  if c.peek = '#' then c.skipWhile fun x => !isBreakOrEnd x else c

end Cursor

end SchemaDepot.Yaml
