/-
# Reading documents

A document is read into data. Its collections are visited from the outside to the
inside, those of one depth in order: first the keys of a mapping, each of which
must be new to it, then its values. The first fault met ends the reading. A
collection is visited once, whether it is met under a name or not.

Once no fault is left, each node has its value. Collections are kept in a pool by
their places, so an alias inside its own node is no obstacle. A mapping has as
many entries as its node.

Key definitions: `Yaml.Node.scalarValue`, `Yaml.Reading.visit`, `Yaml.Node.check`,
`Yaml.Node.value`, `Yaml.Node.contents`, `Yaml.Node.data`, `Yaml.readChars`,
`Yaml.read`.
-/
import SchemaDepot.Pool
import SchemaDepot.Yaml.Node
import SchemaDepot.Yaml.Scalar
import SchemaDepot.Yaml.Token.Lexer

namespace SchemaDepot.Yaml

namespace Tag

/-- The tag of a collection that is filled after its surroundings. -/
def isCollection : Tag → Bool
  | .mapping | .sequence | .set | .pairs => true
  | _ => false

/-- No node with the tag has a value. -/
def isBare : Tag → Bool
  | .default | .unknown => true
  | _ => false

end Tag

namespace Node

/-! ### Scalars

A mapping can stand for a scalar: its text is that of its default value, the first
value whose key has the tag for it. -/

/-- How many default values can be gone through. Each takes a call, and about fifteen
are open before the first. -/
def defaultLimit : Nat := callLimit - 15

/-- The text of a node with a scalar tag. -/
def scalarText (anchors : Anchors) : (steps : Nat) → Node → Except Fault String
  | 0, _ => .error (.unsuitable .tooDeep)
  | steps + 1, n =>
    match n with
    | .scalar _ s => .ok s
    | .mapping _ _ entries =>
      match entries.find? fun e => (e.1.resolve anchors).tag = .default with
      | some e => scalarText anchors steps (e.2.resolve anchors)
      | none => .error .malformed
    | _ => .error .malformed

/-- The value of a node with a scalar tag. Only a scalar itself can be a moment. -/
def scalarValue (anchors : Anchors) (n : Node) : Except Fault Value :=
  if n.tag.isBare then .error .malformed
  else do
    let s ← scalarText anchors defaultLimit n
    if n.tag = .moment && n.place?.isSome then .error (.unsuitable .wrongKind)
    else Yaml.scalarValue n.tag s

/-! ### Keys

"Not a number" is the same as nothing else, but two keys can be one and the same
"not a number": by the word for it, which always means the same one, or by the
name of one node. -/

/-- A key and, where it is "not a number", the mark that tells which one. -/
structure Key where
  value : Value
  mark? : Option String

/-- Both keys are the same. -/
def Key.same (k l : Key) : Bool :=
  k.value.same l.value || (k.mark?.isSome && k.mark? = l.mark?)

/-- The mark of a key of this value, the text it is written with and the name of
its node. -/
def markOf (v : Value) (text : Except Fault String) (name? : Option String) : Option String :=
  match v, text with
  | .float .nan, .ok s => if isWordForNan s then some ".nan" else name?
  | _, _ => none

/-- The key that a node gives, which must not be a collection. -/
def key (anchors : Anchors) (n : Node) : Except Fault Key :=
  let content := n.resolve anchors
  if content.tag.isCollection then .error (.unsuitable .wrongKind)
  else do
    let v ← content.scalarValue anchors
    .ok ⟨v, markOf v (content.scalarText anchors defaultLimit) n.name?⟩

end Node

/-! ### Visiting -/

/-- How far a document is visited. -/
structure Reading where
  anchors : Anchors
  /-- The places of the collections that were met. -/
  met : List Nat
  /-- The collections to be visited, the first one first. -/
  waiting : List Node

namespace Reading

/-- Meets a node as a value: a scalar must have its value, and a collection waits
for its turn, unless it was met before. -/
def meet (r : Reading) (n : Node) : Except Fault Reading :=
  let content := n.resolve r.anchors
  if content.tag.isCollection then
    match content.place? with
    | none => .ok { r with waiting := r.waiting ++ [content] }
    | some p =>
      if r.met.contains p then .ok r
      else .ok { r with waiting := r.waiting ++ [content], met := p :: r.met }
  else (content.scalarValue r.anchors).map fun _ => r

/-- Meets the nodes in order. -/
def meetAll (r : Reading) : List Node → Except Fault Reading
  | [] => .ok r
  | n :: ns => do
    let r ← r.meet n
    meetAll r ns

/-- Checks the keys of a mapping in order; `seen` are the ones before. -/
def checkKeys (r : Reading) (seen : List Node.Key) : List Node → Except Fault Unit
  | [] => .ok ()
  | n :: ns => do
    let k ← n.key r.anchors
    if seen.any k.same then
      match k.value.shown with
      | .ok shown => .error (.repeatedKey shown)
      | .error e => .error (.unsuitable e)
    else checkKeys r (seen ++ [k]) ns

/-- Visits a mapping: its keys first, then its values. -/
def visitMapping (r : Reading) (n : Node) : Except Fault Reading :=
  match n with
  | .mapping _ _ entries => do
    r.checkKeys [] (entries.map Prod.fst)
    r.meetAll (entries.map Prod.snd)
  | .sequence _ _ items =>
    if items.isEmpty then .error .malformed else .error (.unsuitable .wrongKind)
  | .scalar _ s =>
    if s.isEmpty then .error .malformed else .error (.unsuitable (.value .notPair))
  | _ => .error .malformed

/-- Visits a sequence of pairs: mappings with one entry each. -/
def visitPairs (r : Reading) : List Node → Except Fault Reading
  | [] => .ok r
  | n :: ns =>
    match n.resolve r.anchors with
    | .mapping _ _ [(k, v)] => do
      let r ← r.meet k
      let r ← r.meet v
      visitPairs r ns
    | _ => .error .malformed

/-- Visits a collection by its tag. -/
def visit (r : Reading) (n : Node) : Except Fault Reading :=
  match n.tag with
  | .mapping | .set => r.visitMapping n
  | .sequence =>
    match n with
    | .sequence _ _ items => r.meetAll items
    | _ => .error .malformed
  | .pairs =>
    match n with
    | .sequence _ _ items => r.visitPairs items
    | _ => .error .malformed
  | _ => .ok r

/-- Visits what waits, until nothing does. -/
def visitAll : (fuel : Nat) → Reading → Except Fault Unit
  | 0, _ => .ok ()
  | fuel + 1, r =>
    match r.waiting with
    | [] => .ok ()
    | n :: rest => do
      let r ← { r with waiting := rest }.visit n
      visitAll fuel r

end Reading

namespace Node

/-- Meets every node of a document. -/
def check (root : Node) : Except Fault Unit := do
  let r ← Reading.meet ⟨root.anchors, [], []⟩ root
  r.visitAll (root.size + 1)

/-! ### The value of a document -/

/-- The value of a node: a collection stands by its place. -/
def value (anchors : Anchors) (n : Node) : Value :=
  let content := n.resolve anchors
  if content.tag.isCollection then .shared (content.place?.getD 0)
  else match content.scalarValue anchors with
    | .ok v => v
    | .error _ => .null

/-- The key and the value of a mapping with one entry. -/
def pair (anchors : Anchors) (n : Node) : Value :=
  match n.resolve anchors with
  | .mapping _ _ [(k, v)] => .tuple [k.value anchors, v.value anchors]
  | _ => .null

/-- What a collection holds. -/
def contents (anchors : Anchors) : Node → Value
  | .sequence _ tag items =>
    .list (items.map (if tag = .pairs then pair anchors else value anchors))
  | .mapping _ tag entries =>
    if tag = .set then .set (Value.dedup (entries.map fun e => e.1.value anchors))
    else Value.mapOf (entries.map fun e => (e.1.value anchors, e.2.value anchors))
  | _ => .null

/-- The collections in a node by their places, with what they hold. -/
def pool (anchors : Anchors) (root : Node) : Pool :=
  root.collections.map fun n => (n.place?.getD 0, n.contents anchors)

/-- The data that a document describes. -/
def data (root : Node) : Data := ⟨root.value root.anchors, root.pool root.anchors⟩

end Node

/-- A character that a document may hold. -/
def isPermitted (c : Char) : Bool :=
  c = '\t' || c = '\n' || c = '\r' || (' ' ≤ c && c ≤ '~') || c = '\x85' ||
    (0xA0 ≤ c.toNat && c.toNat ≤ 0xFFFD) || 0x10000 ≤ c.toNat

/-- The data that the characters of a document describe. -/
def readChars (cs : List Char) : Except Fault Data :=
  if !cs.all isPermitted then .error .malformed
  else do
    let (ts, fault?) := tokens cs
    let root ← Node.ofTokens ts fault?
    root.check
    .ok root.data

/-- The data that a document describes. -/
def read (text : String) : Except Fault Data := readChars text.toList

end SchemaDepot.Yaml
