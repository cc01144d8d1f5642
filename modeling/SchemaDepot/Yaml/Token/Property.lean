/-
# Names, tags and directives

An anchor or an alias is a name after `&` or `*`. A tag is `!` and a suffix, or a
handle `!`, `!!` or `!name!` and a suffix, or a whole tag between `!<` and `>`. In
a suffix a percent sign starts the bytes of characters in hexadecimal.

Key definitions: `Yaml.readName`, `Yaml.readTag`, `Yaml.readDirective`.
-/
import SchemaDepot.Number.Decimal
import SchemaDepot.Yaml.Cursor
import SchemaDepot.Yaml.Token

namespace SchemaDepot.Yaml

/-- A hexadecimal digit. -/
def isHexDigit (c : Char) : Bool :=
  Text.isAsciiDigit c || ('a' ≤ c && c ≤ 'f') || ('A' ≤ c && c ≤ 'F')

/-- Fails unless a condition holds. -/
def demand (condition : Bool) : Except Fault Unit :=
  if condition then .ok () else .error .malformed

/-- Reads a name of one character or more. -/
def readName (c : Cursor) : Except Fault (String × Cursor) := do
  let (name, c) := c.takeWhile isNameChar
  demand !name.isEmpty
  .ok (String.ofList name, c)

/-- Reads the name of an anchor or an alias after its mark. -/
def readAnchor (c : Cursor) : Except Fault (String × Cursor) := do
  let (name, c) ← readName c.step
  demand (isGap c.peek || ['?', ':', ',', ']', '\x7d', '%', '@', '\x60'].contains c.peek)
  .ok (name, c)

/-- Reads the handle of a tag. -/
def readHandle (c : Cursor) : Except Fault (String × Cursor) := do
  demand (c.peek = '!')
  if c.peekAt 1 = ' ' then .ok ("!", c.step)
  else
    let (name, after) := c.step.takeWhile isNameChar
    demand (after.peek = '!')
    .ok (String.ofList ('!' :: name ++ ['!']), after.step)

/-- A character of the suffix of a tag. -/
def isTagChar (c : Char) : Bool :=
  c.isAlphanum || "-;/?:@&=+$,_.!~*'()[]%".toList.contains c

/-- Reads bytes in hexadecimal, each after a percent sign. -/
def readEscapedBytes : (fuel : Nat) → Cursor → Except Fault (List UInt8 × Cursor)
  | 0, c => .ok ([], c)
  | fuel + 1, c =>
    if c.peek = '%' then do
      demand (isHexDigit (c.peekAt 1) && isHexDigit (c.peekAt 2))
      let byte := (Decimal.valueIn 16 [c.peekAt 1, c.peekAt 2]).toUInt8
      let (bytes, c) ← readEscapedBytes fuel (c.skip 3)
      .ok (byte :: bytes, c)
    else .ok ([], c)

/-- Reads the characters of a suffix. -/
def readSuffixChars : (fuel : Nat) → Cursor → Except Fault (List Char × Cursor)
  | 0, c => .ok ([], c)
  | fuel + 1, c =>
    if !isTagChar c.peek then .ok ([], c)
    else if c.peek = '%' then do
      let (bytes, c) ← readEscapedBytes (c.rest.length + 1) c
      match String.fromUTF8? ⟨bytes.toArray⟩ with
      | none => .error .malformed
      | some s => do
        let (more, c) ← readSuffixChars fuel c
        .ok (s.toList ++ more, c)
    else do
      let (more, after) ← readSuffixChars fuel c.step
      .ok (c.peek :: more, after)

/-- Reads the suffix of a tag, which has one character or more. -/
def readSuffix (c : Cursor) : Except Fault (String × Cursor) := do
  demand (isTagChar c.peek)
  let (cs, c) ← readSuffixChars (c.rest.length + 1) c
  .ok (String.ofList cs, c)

/-- The characters up to the next space or line break hold a `!`. -/
def hasHandle (cs : List Char) : Bool := (cs.takeWhile fun x => !isSpaceOrEnd x).contains '!'

/-- Reads a tag: its handle, if any, and its suffix. -/
def readTag (c : Cursor) : Except Fault ((Option String × String) × Cursor) := do
  let (tag, c) ←
    if c.peekAt 1 = '<' then do
      let (suffix, c) ← readSuffix (c.skip 2)
      demand (c.peek = '>')
      Except.ok ((none, suffix), c.step)
    else if isGap (c.peekAt 1) then Except.ok ((none, "!"), c.step)
    else do
      let (handle, c) ←
        if hasHandle c.step.rest then readHandle c else Except.ok ("!", c.step)
      let (suffix, c) ← readSuffix c
      Except.ok ((some handle, suffix), c)
  demand (isSpaceOrEnd c.peek)
  .ok (tag, c)

/-- Reads a number of a version. -/
def readVersionNumber (c : Cursor) : Except Fault (Nat × Cursor) := do
  let (digits, c) := c.takeWhile Text.isAsciiDigit
  demand !digits.isEmpty
  match Decimal.read digits with
  | .ok n => .ok (n, c)
  | .error e => .error (.unsuitable e)

/-- Reads a version: two numbers with a point between. -/
def readVersion (c : Cursor) : Except Fault (Directive × Cursor) := do
  let (major, c) ← readVersionNumber (c.skipWhile (· = ' '))
  demand (c.peek = '.')
  let (_, c) ← readVersionNumber c.step
  demand (isSpaceOrEnd c.peek)
  .ok (.version major, c)

/-- Reads a handle and what it stands for. -/
def readHandleMeaning (c : Cursor) : Except Fault (Directive × Cursor) := do
  let (name, c) ← readHandle (c.skipWhile (· = ' '))
  demand (c.peek = ' ')
  let (meaning, c) ← readSuffix (c.skipWhile (· = ' '))
  demand (isSpaceOrEnd c.peek)
  .ok (.handle name meaning, c)

/-- Reads a directive after its percent sign, to the end of its line. -/
def readDirective (c : Cursor) : Except Fault (Directive × Cursor) := do
  let (name, c) ← readName c.step
  demand (isSpaceOrEnd c.peek)
  let (d, c) ←
    if name = "YAML" then readVersion c
    else if name = "TAG" then readHandleMeaning c
    else Except.ok (.other, c.skipWhile fun x => !isBreakOrEnd x)
  let c := c.skipComment
  demand (isBreakOrEnd c.peek)
  .ok (d, c.lineBreak.2)

end SchemaDepot.Yaml
