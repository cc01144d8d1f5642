/-
# Finding the tokens

The tokens are found from left to right. Outside flow collections a change of
indentation opens or closes a collection. A key of one line may go without a
mark: where something stands that could be such a key its place is remembered,
and when a colon follows in the same line, the mark is put there afterwards.

Key definitions: `Yaml.Lexer`, `Yaml.Lexer.next`, `Yaml.tokens`.
-/
import SchemaDepot.Yaml.Token.Scalar

namespace SchemaDepot.Yaml

/-- Something that is a key if a colon follows. -/
structure PossibleKey where
  /-- How many tokens stand before it. -/
  place : Nat
  /-- It must turn out to be a key. -/
  required : Bool
  index : Nat
  line : Nat
  column : Nat

/-- How far the tokens of a document are found. -/
structure Lexer where
  cursor : Cursor
  /-- The tokens found, the last one first. -/
  found : List Token
  /-- How many flow collections are open. -/
  depth : Nat
  /-- The column of the innermost block collection, -1 outside of all. -/
  indent : Int
  /-- The columns of the block collections around it. -/
  outer : List Int
  /-- A key without a mark may start here. -/
  keyAllowed : Bool
  /-- What could be a key, by the number of flow collections around it. -/
  possibleKeys : List (Nat × PossibleKey)
  /-- The end of the document was found. -/
  ended : Bool

namespace Lexer

/-- Before the first token. -/
def start (cs : List Char) : Lexer := ⟨.start cs, [], 0, -1, [], true, [], false⟩

/-- A token found at the end. -/
def add (l : Lexer) (t : Token) : Lexer := { l with found := t :: l.found }

/-- A token put after the first `place` tokens. -/
def insertAt (l : Lexer) (place : Nat) (t : Token) : Lexer :=
  let behind := l.found.length - place
  { l with found := l.found.take behind ++ t :: l.found.drop behind }

/-- The longest key without a mark. -/
def keyLimit : Nat := 1024

/-- Whether a possible key can no longer be one. -/
def isStale (l : Lexer) (k : PossibleKey) : Bool :=
  k.line ≠ l.cursor.line || l.cursor.index - k.index > keyLimit

/-- Forgets possible keys of earlier lines and those that are too far behind. -/
def dropStale (l : Lexer) : Except Fault Lexer := do
  demand !(l.possibleKeys.any fun k => l.isStale k.2 && k.2.required)
  .ok { l with possibleKeys := l.possibleKeys.filter fun k => !l.isStale k.2 }

/-- Forgets the possible key of the present depth. -/
def dropKey (l : Lexer) : Except Fault Lexer := do
  demand !((l.possibleKeys.lookup l.depth).any (·.required))
  .ok { l with possibleKeys := l.possibleKeys.filter fun k => k.1 ≠ l.depth }

/-- Remembers that what comes could be a key. -/
def saveKey (l : Lexer) : Except Fault Lexer :=
  if l.keyAllowed then do
    let required := l.depth = 0 && l.indent = (l.cursor.column : Int)
    let l ← l.dropKey
    let key : PossibleKey :=
      ⟨l.found.length, required, l.cursor.index, l.cursor.line, l.cursor.column⟩
    .ok { l with possibleKeys := (l.depth, key) :: l.possibleKeys }
  else .ok l

/-- Closes the block collections that are indented more than a column. -/
def closeTo (l : Lexer) (column : Int) : Lexer :=
  if l.depth ≠ 0 then l else close l l.outer
where
  /-- Closes collections as long as there are any around. -/
  close (l : Lexer) : List Int → Lexer
    | [] => l
    | indent :: outer =>
      if l.indent > column then
        close { l with indent, outer, found := .blockEnd :: l.found } outer
      else l

/-- Opens a block collection at a column, unless one is open there. The token
comes after the first `place` tokens. -/
def openAt (l : Lexer) (column : Nat) (place : Nat) (t : Token) : Lexer :=
  if l.indent < column then
    ({ l with indent := column, outer := l.indent :: l.outer }).insertAt place t
  else l

/-- The same with other permission for keys. -/
def allowKey (l : Lexer) (allowed : Bool) : Lexer := { l with keyAllowed := allowed }

/-- The same at another place of the document. -/
def moveTo (l : Lexer) (c : Cursor) : Lexer := { l with cursor := c }

/-- Skips spaces, comments and line breaks; outside flow collections a key may
start after a line break. -/
def skipGap (l : Lexer) : Lexer :=
  let c := l.cursor
  let c := if c.index = 0 && c.peek = '\uFEFF' then c.step else c
  let (c, broken) := skip (c.rest.length + 1) c false
  { l with cursor := c, keyAllowed := l.keyAllowed || (broken && l.depth = 0) }
where
  /-- Skips to the next token and says whether a line ended. -/
  skip : (fuel : Nat) → Cursor → Bool → Cursor × Bool
    | 0, c, broken => (c, broken)
    | fuel + 1, c, broken =>
      let c := c.skipComment
      if isBreak c.peek then skip fuel c.lineBreak.2 true else (c, broken)

/-- Adds a token of some characters. -/
def mark (l : Lexer) (t : Token) (width : Nat) : Lexer := (l.add t).moveTo (l.cursor.skip width)

/-- The end of the document. -/
def finish (l : Lexer) : Except Fault Lexer := do
  let l ← (l.closeTo (-1)).dropKey
  .ok { l.add .streamEnd with possibleKeys := [], ended := true }

/-- A directive. -/
def directive (l : Lexer) : Except Fault Lexer := do
  let l ← (l.closeTo (-1)).dropKey
  let (d, c) ← readDirective l.cursor
  .ok (((l.allowKey false).add (.directive d)).moveTo c)

/-- The start or the end of a document. -/
def boundary (l : Lexer) (t : Token) : Except Fault Lexer := do
  let l ← (l.closeTo (-1)).dropKey
  .ok ((l.allowKey false).mark t 3)

/-- The start of a flow collection. -/
def openFlow (l : Lexer) (t : Token) : Except Fault Lexer := do
  let l ← l.saveKey
  .ok (({ l with depth := l.depth + 1 }).allowKey true |>.mark t 1)

/-- The end of a flow collection. -/
def closeFlow (l : Lexer) (t : Token) : Except Fault Lexer := do
  let l ← l.dropKey
  demand (l.depth ≠ 0)
  .ok (({ l with depth := l.depth - 1 }).allowKey false |>.mark t 1)

/-- A comma between the entries of a flow collection. -/
def flowEntry (l : Lexer) : Except Fault Lexer := do
  let l ← l.dropKey
  .ok ((l.allowKey true).mark .flowEntry 1)

/-- The mark before an entry of a block sequence. -/
def blockEntry (l : Lexer) : Except Fault Lexer := do
  demand (l.depth ≠ 0 || l.keyAllowed)
  let l := if l.depth = 0 then l.openAt l.cursor.column l.found.length .blockSequenceStart else l
  let l ← (l.allowKey true).dropKey
  .ok (l.mark .blockEntry 1)

/-- The mark before a key. -/
def key (l : Lexer) : Except Fault Lexer := do
  demand (l.depth ≠ 0 || l.keyAllowed)
  let l := if l.depth = 0 then l.openAt l.cursor.column l.found.length .blockMappingStart else l
  let l ← (l.allowKey (l.depth = 0)).dropKey
  .ok (l.mark .key 1)

/-- The mark before a value. -/
def value (l : Lexer) : Except Fault Lexer :=
  match l.possibleKeys.lookup l.depth with
  | some k => do
    let l := { l with possibleKeys := l.possibleKeys.filter fun k => k.1 ≠ l.depth }
    let l := l.insertAt k.place .key
    let l := if l.depth = 0 then l.openAt k.column k.place .blockMappingStart else l
    .ok ((l.allowKey false).mark .value 1)
  | none => do
    demand (l.depth ≠ 0 || l.keyAllowed)
    let l := if l.depth = 0 then l.openAt l.cursor.column l.found.length .blockMappingStart else l
    let l ← (l.allowKey (l.depth = 0)).dropKey
    .ok (l.mark .value 1)

/-- A property of a node or an alias. -/
def property (l : Lexer) (read : Cursor → Except Fault (Token × Cursor)) : Except Fault Lexer := do
  let l ← l.saveKey
  let (t, c) ← read l.cursor
  .ok (((l.allowKey false).add t).moveTo c)

/-- A block scalar. -/
def block (l : Lexer) (folded : Bool) : Except Fault Lexer := do
  let l ← (l.allowKey true).dropKey
  let (text, c) ← readBlock folded l.indent l.cursor
  .ok ((l.add (.scalar text false)).moveTo c)

/-- A plain scalar. -/
def plain (l : Lexer) : Except Fault Lexer := do
  let l ← l.saveKey
  let (text, c, broken) := readPlain (l.depth ≠ 0) (l.indent + 1) l.cursor
  .ok (((l.allowKey broken).add (.scalar text true)).moveTo c)

/-- A plain scalar starts here. -/
def startsPlain (l : Lexer) : Bool :=
  let x := l.cursor.peek
  !(isGap x || "-?:,[]\x7b\x7d#&*!|>'\"%@\x60".toList.contains x) ||
    (!isGap (l.cursor.peekAt 1) && (x = '-' || (l.depth = 0 && (x = '?' || x = ':'))))

/-- Finds one more token, or several that start at the same place. -/
def next (l : Lexer) : Except Fault Lexer := do
  let l ← l.skipGap.dropStale
  let l := l.closeTo l.cursor.column
  let c := l.cursor
  let gapNext := isGap (c.peekAt 1)
  let x := c.peek
  if x = endMark then l.finish
  else if x = '%' && c.column = 0 then l.directive
  else if x = '-' && c.column = 0 && c.atBoundary then l.boundary .documentStart
  else if x = '.' && c.column = 0 && c.atBoundary then l.boundary .documentEnd
  else if x = '[' then l.openFlow .flowSequenceStart
  else if x = '\x7b' then l.openFlow .flowMappingStart
  else if x = ']' then l.closeFlow .flowSequenceEnd
  else if x = '\x7d' then l.closeFlow .flowMappingEnd
  else if x = ',' then l.flowEntry
  else if x = '-' && gapNext then l.blockEntry
  else if x = '?' && (l.depth ≠ 0 || gapNext) then l.key
  else if x = ':' && (l.depth ≠ 0 || gapNext) then l.value
  else if x = '*' then l.property fun c => do
    let (name, c) ← readAnchor c
    .ok (.alias name, c)
  else if x = '&' then l.property fun c => do
    let (name, c) ← readAnchor c
    .ok (.anchor name, c)
  else if x = '!' then l.property fun c => do
    let ((handle, suffix), c) ← readTag c
    .ok (.tag handle suffix, c)
  else if x = '|' && l.depth = 0 then l.block false
  else if x = '>' && l.depth = 0 then l.block true
  else if x = '\'' || x = '"' then l.property fun c => do
    let (text, c) ← readQuoted (x = '"') c
    .ok (.scalar text false, c)
  else if l.startsPlain then l.plain
  else .error .malformed

/-- How many of the tokens found are settled: what comes after them depends on
whether a possible key turns out to be one. -/
def settled (l : Lexer) : Nat :=
  l.possibleKeys.foldl (fun n k => if l.isStale k.2 then n else min n k.2.place) l.found.length

/-- Only the settled tokens. -/
def cut (l : Lexer) : Lexer := { l with found := l.found.drop (l.found.length - l.settled) }

/-- Finds tokens to the end of the document or to the first fault, which hides
the tokens that are not settled. -/
def run : (fuel : Nat) → Lexer → Lexer × Option Fault
  | 0, l => (l.cut, some .malformed)
  | fuel + 1, l =>
    if l.ended then (l, none)
    else match l.next with
      | .ok l => run fuel l
      | .error fault => (l.cut, some fault)

end Lexer

/-- The tokens of a document, and the fault after them if there is one. -/
def tokens (cs : List Char) : List Token × Option Fault :=
  let (l, fault) := Lexer.run (cs.length + 2) (.start cs)
  (l.found.reverse, fault)

end SchemaDepot.Yaml
