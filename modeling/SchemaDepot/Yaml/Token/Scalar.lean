/-
# Scalars in a document

A scalar is written in one of five ways. A plain one ends before a comment, a
colon with a gap after it, or a mark of structure. Between single quotes a quote
is written twice; between double quotes a backslash starts an escape. After `|`
the lines of an indented block are kept, after `>` they are folded. In all but a
kept block a single line break counts as a space.

Key definitions: `Yaml.readPlain`, `Yaml.readQuoted`, `Yaml.readBlock`.
-/
import SchemaDepot.Yaml.Token.Property

namespace SchemaDepot.Yaml

/-- What a line break and the breaks after it count for: one line feed alone is a
space, and of more the first is dropped. -/
def foldBreaks (first : List Char) (more : List Char) : List Char :=
  if first ≠ ['\n'] then first ++ more
  else if more.isEmpty then [' ']
  else more

/-! ### Plain scalars -/

/-- A stretch of a plain scalar without gaps. -/
def plainRun (flow : Bool) : List Char → List Char
  | [] => []
  | x :: xs =>
    let next := xs.head?.getD endMark
    if isGap x then []
    else if x = ':' && (isGap next || (flow && [',', '[', ']', '\x7b', '\x7d'].contains next)) then []
    else if flow && [',', '?', '[', ']', '\x7b', '\x7d'].contains x then []
    else x :: plainRun flow xs

/-- Reads spaces and breaks after the first break inside a plain scalar; nothing
if a document boundary comes. -/
def plainBreaks : (fuel : Nat) → Cursor → Option (List Char) × Cursor
  | 0, c => (some [], c)
  | fuel + 1, c =>
    if c.peek = ' ' then plainBreaks fuel c.step
    else if isBreak c.peek then
      let (b, c) := c.lineBreak
      if c.atBoundary then (none, c)
      else
        let (more, c) := plainBreaks fuel c
        (more.map (b ++ ·), c)
    else (some [], c)

/-- Reads what separates two stretches of a plain scalar: nothing if the scalar
cannot go on. The truth value says that a line ended. -/
def plainGap (c : Cursor) : Option (List Char) × Cursor × Bool :=
  let (spaces, c) := c.takeWhile (· = ' ')
  if isBreak c.peek then
    let (b, c) := c.lineBreak
    if c.atBoundary then (none, c, true)
    else
      let (more, c) := plainBreaks (c.rest.length + 1) c
      (more.map (foldBreaks b), c, true)
  else (if spaces.isEmpty then none else some spaces, c, false)

/-- Reads the stretches of a plain scalar; `gap` stands before the next one. -/
def plainRuns (flow : Bool) (indent : Int) :
    (fuel : Nat) → (gap : List Char) → (broken : Bool) → Cursor → List Char × Cursor × Bool
  | 0, _, broken, c => ([], c, broken)
  | fuel + 1, gap, broken, c =>
    let run := plainRun flow c.rest
    if c.peek = '#' || run.isEmpty then ([], c, broken)
    else
      let (next, c, broken) := plainGap (c.skip run.length)
      match next with
      | none => (gap ++ run, c, broken)
      | some next =>
        if c.peek = '#' || (!flow && (c.column : Int) < indent) then (gap ++ run, c, broken)
        else
          let (more, c, broken) := plainRuns flow indent fuel next broken c
          (gap ++ run ++ more, c, broken)

/-- Reads a plain scalar, which outside flow collections must be indented. The
truth value says that a line ended after its last stretch. -/
def readPlain (flow : Bool) (indent : Int) (c : Cursor) : String × Cursor × Bool :=
  let (cs, c, broken) := plainRuns flow indent (c.rest.length + 1) [] false c
  (String.ofList cs, c, broken)

/-! ### Quoted scalars -/

/-- What a character after a backslash stands for by itself. -/
def escapes : List (Char × Char) :=
  [('0', '\x00'), ('a', '\x07'), ('b', '\x08'), ('t', '\t'), ('\t', '\t'), ('n', '\n'),
   ('v', '\x0b'), ('f', '\x0c'), ('r', '\r'), ('e', '\x1b'), (' ', ' '), ('"', '"'),
   ('\\', '\\'), ('/', '/'), ('N', '\x85'), ('_', '\xa0'), ('L', '\u2028'), ('P', '\u2029')]

/-- How many hexadecimal digits a letter after a backslash takes. -/
def escapeWidths : List (Char × Nat) := [('x', 2), ('u', 4), ('U', 8)]

/-- The character that holds a code point. -/
def charOf (code : Nat) : Except Fault Char :=
  if code > 0x7FFFFFFF then .error (.unsuitable .overflow)
  else if code > 0x10FFFF then .error (.unsuitable (.value .codePoint))
  else .ok (Text.ofCodePoint code)

/-- Reads line breaks inside a quoted scalar, with the spaces before each. -/
def quotedBreaks : (fuel : Nat) → Cursor → Except Fault (List Char × Cursor)
  | 0, c => .ok ([], c)
  | fuel + 1, c => do
    demand !c.atBoundary
    let c := c.skipWhile isSpaceOrTab
    if isBreak c.peek then
      let (b, c) := c.lineBreak
      let (more, c) ← quotedBreaks fuel c
      .ok (b ++ more, c)
    else .ok ([], c)

/-- Reads an escape after its backslash. -/
def readEscape (c : Cursor) : Except Fault (List Char × Cursor) :=
  match escapes.lookup c.peek with
  | some x => .ok ([x], c.step)
  | none =>
    match escapeWidths.lookup c.peek with
    | some width => do
      let digits := c.step.rest.take width
      demand (digits.length = width && digits.all isHexDigit)
      let x ← charOf (Decimal.valueIn 16 digits)
      .ok ([x], c.skip (width + 1))
    | none =>
      if isBreak c.peek then
        let c := c.lineBreak.2
        quotedBreaks (c.rest.length + 1) c
      else .error .malformed

/-- A character that may end a stretch of a quoted scalar. -/
def stopsQuoted (x : Char) : Bool := isGap x || x = '\'' || x = '"' || x = '\\'

/-- Reads a stretch of a quoted scalar without gaps. -/
def quotedRun (double : Bool) : (fuel : Nat) → Cursor → Except Fault (List Char × Cursor)
  | 0, c => .ok ([], c)
  | fuel + 1, c =>
    let (run, c) := c.takeWhile fun x => !stopsQuoted x
    let goOn (cs : List Char) (c : Cursor) : Except Fault (List Char × Cursor) := do
      let (more, c) ← quotedRun double fuel c
      .ok (run ++ cs ++ more, c)
    if !double && c.peek = '\'' && c.peekAt 1 = '\'' then goOn ['\''] (c.skip 2)
    else if (double && c.peek = '\'') || (!double && (c.peek = '"' || c.peek = '\\')) then
      goOn [c.peek] c.step
    else if double && c.peek = '\\' then do
      let (cs, c) ← readEscape c.step
      goOn cs c
    else .ok (run, c)

/-- Reads a gap inside a quoted scalar. -/
def quotedGap (c : Cursor) : Except Fault (List Char × Cursor) := do
  let (spaces, c) := c.takeWhile isSpaceOrTab
  demand (c.peek ≠ endMark)
  if isBreak c.peek then
    let (b, c) := c.lineBreak
    let (more, c) ← quotedBreaks (c.rest.length + 1) c
    .ok (foldBreaks b more, c)
  else .ok (spaces, c)

/-- Reads gaps and stretches up to the closing quote. -/
def quotedRest (double : Bool) (quote : Char) :
    (fuel : Nat) → Cursor → Except Fault (List Char × Cursor)
  | 0, _ => .error .malformed
  | fuel + 1, c =>
    if c.peek = quote then .ok ([], c.step)
    else do
      let (gap, c) ← quotedGap c
      let (run, c) ← quotedRun double (c.rest.length + 1) c
      let (more, c) ← quotedRest double quote fuel c
      .ok (gap ++ run ++ more, c)

/-- Reads a quoted scalar, in double or in single quotes. -/
def readQuoted (double : Bool) (c : Cursor) : Except Fault (String × Cursor) := do
  let quote := c.peek
  let (run, c) ← quotedRun double (c.rest.length + 1) c.step
  let (more, c) ← quotedRest double quote (c.rest.length + 2) c
  .ok (String.ofList (run ++ more), c)

/-! ### Block scalars -/

/-- What happens to the line breaks at the end of a block. -/
inductive Chomping
  /-- The first one is kept. -/
  | clip
  /-- None is kept. -/
  | strip
  /-- All are kept. -/
  | keep
deriving DecidableEq

/-- Reads the sign of a block header, if there is one. -/
def readChomping (c : Cursor) : Option Chomping × Cursor :=
  if c.peek = '+' then (some .keep, c.step)
  else if c.peek = '-' then (some .strip, c.step)
  else (none, c)

/-- Reads the indentation digit of a block header, if there is one. -/
def readIndentDigit (c : Cursor) : Except Fault (Option Nat × Cursor) :=
  if Text.isAsciiDigit c.peek then
    if c.peek = '0' then .error .malformed
    else .ok (some (c.peek.toNat - '0'.toNat), c.step)
  else .ok (none, c)

/-- Reads a block header after its mark: a sign and a digit, in either order and
neither of them needed. -/
def readBlockHeader (c : Cursor) : Except Fault ((Chomping × Option Nat) × Cursor) := do
  let (before, c) := readChomping c
  let (digit, c) ← readIndentDigit c
  let (after, c) :=
    if before.isNone && digit.isSome then readChomping c else (none, c)
  demand (isSpaceOrEnd c.peek)
  .ok (((before <|> after).getD .clip, digit), c)

/-- Reads blank lines before a block: their breaks and the deepest column. -/
def blockIndentation : (fuel : Nat) → (deepest : Nat) → Cursor → (List Char × Nat) × Cursor
  | 0, deepest, c => (([], deepest), c)
  | fuel + 1, deepest, c =>
    if c.peek = ' ' then
      let c := c.step
      blockIndentation fuel (max deepest c.column) c
    else if isBreak c.peek then
      let (b, c) := c.lineBreak
      let ((more, deepest), c) := blockIndentation fuel deepest c
      ((b ++ more, deepest), c)
    else (([], deepest), c)

/-- Skips spaces up to a column. -/
def skipIndent (indent : Nat) : (fuel : Nat) → Cursor → Cursor
  | 0, c => c
  | fuel + 1, c =>
    if c.column < indent && c.peek = ' ' then skipIndent indent fuel c.step else c

/-- Reads blank lines inside a block, up to the indentation of the next line. -/
def blockBreaks (indent : Nat) : (fuel : Nat) → Cursor → List Char × Cursor
  | 0, c => ([], c)
  | fuel + 1, c =>
    let c := skipIndent indent c.rest.length c
    if isBreak c.peek then
      let (b, c) := c.lineBreak
      let (more, c) := blockBreaks indent fuel c
      (b ++ more, c)
    else ([], c)

/-- Reads the lines of a block: the text up to the end of the last line, the break
of that line, and the breaks after it. -/
def blockLines (folded : Bool) (indent : Nat) :
    (fuel : Nat) → (breaks : List Char) → Cursor → (List Char × List Char × List Char) × Cursor
  | 0, breaks, c => (([], [], breaks), c)
  | fuel + 1, breaks, c =>
    let starts := !isSpaceOrTab c.peek
    let (run, c) := c.takeWhile fun x => !isBreakOrEnd x
    let (b, c) := c.lineBreak
    let (more, c) := blockBreaks indent (c.rest.length + 1) c
    if c.column = indent && c.peek ≠ endMark then
      let between :=
        if folded && b = ['\n'] && starts && !isSpaceOrTab c.peek then
          (if more.isEmpty then [' '] else [])
        else b
      let ((text, last, after), c) := blockLines folded indent fuel more c
      ((breaks ++ run ++ between ++ text, last, after), c)
    else ((breaks ++ run, b, more), c)

/-- Reads a block scalar; `parent` is the indentation of what it stands in. -/
def readBlock (folded : Bool) (parent : Int) (c : Cursor) : Except Fault (String × Cursor) := do
  let ((chomping, digit), c) ← readBlockHeader c.step
  let c := c.skipComment
  demand (isBreakOrEnd c.peek)
  let c := c.lineBreak.2
  let least := (max (parent + 1) 1).toNat
  let ((breaks, indent), c) := match digit with
    | none =>
      let ((breaks, deepest), c) := blockIndentation (c.rest.length + 1) 0 c
      ((breaks, max least deepest), c)
    | some d =>
      let (breaks, c) := blockBreaks (least + d - 1) (c.rest.length + 1) c
      ((breaks, least + d - 1), c)
  let ((text, last, after), c) :=
    if c.column = indent && c.peek ≠ endMark then
      blockLines folded indent (c.rest.length + 1) breaks c
    else (([], [], breaks), c)
  let tail := match chomping with
    | .clip => last
    | .strip => []
    | .keep => last ++ after
  .ok (String.ofList (text ++ tail), c)

end SchemaDepot.Yaml
