/-
# Nodes

A document is a tree of nodes: scalars, sequences and mappings, each with a tag.
A node can have a name, the anchor, and an alias stands for the node of its name.
A name is given once, and before it is used. So an alias can stand inside the
node it stands for.

The tree is built from the tokens: a collection holds nodes up to its end, and
where a node is missing nothing stands. The place of a collection is the number
of tokens before its start; no two have the same.

Key definitions: `Yaml.Node`, `Yaml.Node.resolve`, `Yaml.Node.anchors`,
`Yaml.Node.collections`, `Yaml.Node.ofTokens`.
-/
import SchemaDepot.Yaml.Tag
import SchemaDepot.Yaml.Token

namespace SchemaDepot.Yaml

/-- A part of a document. -/
inductive Node
  | scalar (tag : Tag) (text : String)
  | sequence (place : Nat) (tag : Tag) (items : List Node)
  | mapping (place : Nat) (tag : Tag) (entries : List (Node × Node))
  /-- A node with a name. -/
  | anchored (name : String) (node : Node)
  /-- The node of a name. -/
  | alias (name : String)

/-- The nodes of a document that have names. -/
abbrev Anchors := List (String × Node)

namespace Node

instance : Inhabited Node := ⟨.scalar .nothing ""⟩

/-- The node that stands where none is written. -/
def missing : Node := .scalar .nothing ""

/-- The tag of a node that is no alias and has no name. -/
def tag : Node → Tag
  | .scalar t _ | .sequence _ t _ | .mapping _ t _ => t
  | _ => .unknown

/-- The place of a collection. -/
def place? : Node → Option Nat
  | .sequence p _ _ | .mapping p _ _ => some p
  | _ => none

/-- The name a node is known under. -/
def name? : Node → Option String
  | .anchored name _ | .alias name => some name
  | _ => none

/-- The node that a node stands for. -/
def resolve (anchors : Anchors) : Node → Node
  | .alias name => (anchors.lookup name).getD .missing
  | .anchored _ n => n
  | n => n

mutual

/-- The number of nodes in a node, itself included. -/
def size : Node → Nat
  | .scalar _ _ | .alias _ => 1
  | .sequence _ _ items => 1 + sizes items
  | .mapping _ _ entries => 1 + entrySizes entries
  | .anchored _ n => 1 + n.size

/-- The number of nodes in several nodes. -/
def sizes : List Node → Nat
  | [] => 0
  | n :: ns => n.size + sizes ns

/-- The number of nodes in keys and values. -/
def entrySizes : List (Node × Node) → Nat
  | [] => 0
  | (k, v) :: es => k.size + v.size + entrySizes es

end

mutual

/-- The named nodes in a node, each after those it holds. -/
def anchors : Node → Anchors
  | .scalar _ _ | .alias _ => []
  | .sequence _ _ items => anchorsAmong items
  | .mapping _ _ entries => entryAnchors entries
  | .anchored name n => n.anchors ++ [(name, n)]

/-- The named nodes in several nodes. -/
def anchorsAmong : List Node → Anchors
  | [] => []
  | n :: ns => n.anchors ++ anchorsAmong ns

/-- The named nodes in keys and values. -/
def entryAnchors : List (Node × Node) → Anchors
  | [] => []
  | (k, v) :: es => k.anchors ++ v.anchors ++ entryAnchors es

end

mutual

/-- The collections in a node, each before those it holds. -/
def collections : Node → List Node
  | .scalar _ _ | .alias _ => []
  | .sequence p t items => .sequence p t items :: collectionsAmong items
  | .mapping p t entries => .mapping p t entries :: entryCollections entries
  | .anchored _ n => n.collections

/-- The collections in several nodes. -/
def collectionsAmong : List Node → List Node
  | [] => []
  | n :: ns => n.collections ++ collectionsAmong ns

/-- The collections in keys and values. -/
def entryCollections : List (Node × Node) → List Node
  | [] => []
  | (k, v) :: es => k.collections ++ v.collections ++ entryCollections es

end

end Node

/-- How far the nodes of a document are built. -/
structure Builder where
  /-- The tokens to come. -/
  tokens : List Token
  /-- What comes after the last token, if it is a fault. -/
  fault? : Option Fault
  /-- What the handles of tags stand for. -/
  handles : List (String × String)
  /-- The names given so far. -/
  names : List String
  /-- How many nodes are around the next one. -/
  depth : Nat
  /-- How many tokens were taken. -/
  taken : Nat

namespace Builder

/-- How many nodes can be inside one another. Each takes two calls, and about twenty
are open before the first. -/
def depthLimit : Nat := (callLimit - 20) / 2

/-- The failure to find what is needed: where the tokens end in a fault, it is
that fault. -/
def refuse {α : Type} (b : Builder) : Except Fault α :=
  if b.tokens.isEmpty then .error (b.fault?.getD .malformed) else .error .malformed

/-- One of some tokens comes next. -/
def comes (b : Builder) (ts : List Token) : Bool :=
  match b.tokens with
  | [] => false
  | t :: _ => ts.contains t

/-- The builder after the next token. -/
def advance (b : Builder) : Builder := { b with tokens := b.tokens.tail, taken := b.taken + 1 }

/-- Fails where the tokens end in a fault. -/
def expectMore (b : Builder) : Except Fault Unit :=
  if b.tokens.isEmpty then b.refuse else .ok ()

/-- Takes a token that must come next. -/
def take (b : Builder) (t : Token) : Except Fault Builder :=
  if b.comes [t] then .ok b.advance else b.refuse

/-- Gives a name, which must be new. -/
def give (b : Builder) (name : String) : Except Fault Builder :=
  if b.names.contains name then .error .malformed else .ok { b with names := name :: b.names }

/-- The full name of a tag; none if it is the one that leaves the choice open. -/
def tagName? (b : Builder) (handle? : Option String) (suffix : String) :
    Except Fault (Option String) :=
  let settle (name : String) := if name = "!" then none else some name
  match handle? with
  | none => .ok (settle suffix)
  | some handle =>
    match b.handles.lookup handle with
    | some meaning => .ok (settle (meaning ++ suffix))
    | none => .error .malformed

/-- The properties of a node: its name and its tag. -/
structure Properties where
  anchor? : Option String
  /-- The handle and the suffix of the tag. -/
  tag? : Option (Option String × String)

/-- No other property can come. -/
def Properties.areComplete (p : Properties) : Bool := p.anchor?.isSome && p.tag?.isSome

/-- Takes the properties of a node, in either order. -/
def properties (b : Builder) : Properties × Builder :=
  match b.tokens with
  | .anchor name :: .tag h s :: _ => (⟨some name, some (h, s)⟩, b.advance.advance)
  | .anchor name :: _ => (⟨some name, none⟩, b.advance)
  | .tag h s :: .anchor name :: _ => (⟨some name, some (h, s)⟩, b.advance.advance)
  | .tag h s :: _ => (⟨none, some (h, s)⟩, b.advance)
  | _ => (⟨none, none⟩, b)

/-- The tag of a collection. -/
def collectionTag (name? : Option String) (usual : Tag) : Tag :=
  match name? with
  | some name => .ofName name
  | none => usual

/-- A node with its name, if it has one. -/
def withName (anchor? : Option String) (n : Node) : Node :=
  match anchor? with
  | none => n
  | some name => .anchored name n

/-- Where a node may stand. -/
inductive Setting
  /-- Inside a flow collection. -/
  | flow
  /-- Where block collections may start. -/
  | block
  /-- As a key or a value of a block mapping: also a sequence that is not indented. -/
  | mappingPart
deriving DecidableEq

mutual

/-- Takes a node. -/
def node (setting : Setting) : (fuel : Nat) → Builder → Except Fault (Node × Builder)
  | 0, _ => .error .malformed
  | fuel + 1, b =>
    match b.tokens with
    | .alias name :: _ =>
      if b.names.contains name then .ok (.alias name, b.advance) else .error .malformed
    | _ => do
      if b.depth ≥ depthLimit then .error (.unsuitable .tooDeep)
      let (props, b) := b.properties
      if !props.areComplete then b.expectMore
      let tag? ← match props.tag? with
        | some (h, s) => b.tagName? h s
        | none => .ok none
      b.expectMore
      let b ← match props.anchor? with
        | some name => b.give name
        | none => .ok b
      let (content, after) ← content setting props tag? fuel { b with depth := b.depth + 1 }
      .ok (withName props.anchor? content, { after with depth := b.depth })

/-- Takes what a node holds, after its properties. -/
def content (setting : Setting) (props : Properties) (tag? : Option String) :
    (fuel : Nat) → Builder → Except Fault (Node × Builder)
  | 0, _ => .error .malformed
  | fuel + 1, b =>
    let place := b.taken
    match b.tokens with
    | .scalar text plain :: _ =>
      let tag := match tag? with
        | some name => Tag.ofName name
        | none => if plain || props.tag?.isSome then Tag.ofPlain text else .text
      .ok (.scalar tag text, b.advance)
    | .flowSequenceStart :: _ => do
      let (items, b) ← flowSequence true fuel b.advance
      .ok (.sequence place (collectionTag tag? .sequence) items, b)
    | .flowMappingStart :: _ => do
      let (entries, b) ← flowMapping true fuel b.advance
      .ok (.mapping place (collectionTag tag? .mapping) entries, b)
    | t :: _ =>
      if t = .blockEntry && setting = .mappingPart then do
        let (items, b) ← plainSequence fuel b
        .ok (.sequence place (collectionTag tag? .sequence) items, b)
      else if t = .blockSequenceStart && setting ≠ .flow then do
        let (items, b) ← blockSequence fuel b.advance
        .ok (.sequence place (collectionTag tag? .sequence) items, b)
      else if t = .blockMappingStart && setting ≠ .flow then do
        let (entries, b) ← blockMapping fuel b.advance
        .ok (.mapping place (collectionTag tag? .mapping) entries, b)
      else if props.anchor?.isSome || props.tag?.isSome then
        .ok (.scalar ((tag?.map Tag.ofName).getD .nothing) "", b)
      else .error .malformed
    | [] => b.refuse

/-- Takes a node, unless one of some tokens comes in its place. -/
def nodeUnless (ends : List Token) (setting : Setting) :
    (fuel : Nat) → Builder → Except Fault (Node × Builder)
  | 0, _ => .error .malformed
  | fuel + 1, b => if b.comes ends then .ok (.missing, b) else node setting fuel b

/-- Takes the entries of a block sequence and its end. -/
def blockSequence : (fuel : Nat) → Builder → Except Fault (List Node × Builder)
  | 0, _ => .error .malformed
  | fuel + 1, b =>
    if b.comes [.blockEntry] then do
      let (item, b) ← nodeUnless [.blockEntry, .blockEnd] .block fuel b.advance
      let (items, b) ← blockSequence fuel b
      .ok (item :: items, b)
    else do
      let b ← b.take .blockEnd
      .ok ([], b)

/-- Takes the entries of a sequence that is not indented. -/
def plainSequence : (fuel : Nat) → Builder → Except Fault (List Node × Builder)
  | 0, _ => .error .malformed
  | fuel + 1, b =>
    if b.comes [.blockEntry] then do
      let (item, b) ← nodeUnless [.blockEntry, .key, .value, .blockEnd] .block fuel b.advance
      let (items, b) ← plainSequence fuel b
      .ok (item :: items, b)
    else if b.tokens.isEmpty then b.refuse
    else .ok ([], b)

/-- Takes the value of an entry, if its mark comes. -/
def entryValue (ends : List Token) (setting : Setting) :
    (fuel : Nat) → Builder → Except Fault (Node × Builder)
  | 0, _ => .error .malformed
  | fuel + 1, b =>
    if b.comes [.value] then nodeUnless ends setting fuel b.advance
    else if b.tokens.isEmpty then b.refuse
    else .ok (.missing, b)

/-- Takes the entries of a block mapping and its end. -/
def blockMapping : (fuel : Nat) → Builder → Except Fault (List (Node × Node) × Builder)
  | 0, _ => .error .malformed
  | fuel + 1, b =>
    let ends := [Token.key, .value, .blockEnd]
    if b.comes [.key] then do
      let (k, b) ← nodeUnless ends .mappingPart fuel b.advance
      let (v, b) ← entryValue ends .mappingPart fuel b
      let (entries, b) ← blockMapping fuel b
      .ok ((k, v) :: entries, b)
    else do
      let b ← b.take .blockEnd
      .ok ([], b)

/-- Takes the entries of a flow sequence and its end. An entry with a key mark is
a mapping of one entry. -/
def flowSequence (first : Bool) : (fuel : Nat) → Builder → Except Fault (List Node × Builder)
  | 0, _ => .error .malformed
  | fuel + 1, b => do
    if b.comes [.flowSequenceEnd] then .ok ([], b.advance)
    else
      let b ← if first then Except.ok b else b.take .flowEntry
      if b.comes [.key] then do
        let place := b.taken
        let (k, b) ← nodeUnless [.value, .flowEntry, .flowSequenceEnd] .flow fuel b.advance
        let (v, b) ← entryValue [.flowEntry, .flowSequenceEnd] .flow fuel b
        let (items, b) ← flowSequence false fuel b
        .ok (.mapping place .mapping [(k, v)] :: items, b)
      else if b.comes [.flowSequenceEnd] then .ok ([], b.advance)
      else do
        let (item, b) ← node .flow fuel b
        let (items, b) ← flowSequence false fuel b
        .ok (item :: items, b)

/-- Takes the entries of a flow mapping and its end. An entry without marks is a
key without a value. -/
def flowMapping (first : Bool) :
    (fuel : Nat) → Builder → Except Fault (List (Node × Node) × Builder)
  | 0, _ => .error .malformed
  | fuel + 1, b => do
    if b.comes [.flowMappingEnd] then .ok ([], b.advance)
    else
      let b ← if first then Except.ok b else b.take .flowEntry
      if b.comes [.key] then do
        let (k, b) ← nodeUnless [.value, .flowEntry, .flowMappingEnd] .flow fuel b.advance
        let (v, b) ← entryValue [.flowEntry, .flowMappingEnd] .flow fuel b
        let (entries, b) ← flowMapping false fuel b
        .ok ((k, v) :: entries, b)
      else if b.comes [.flowMappingEnd] then .ok ([], b.advance)
      else do
        let (k, b) ← node .flow fuel b
        let (entries, b) ← flowMapping false fuel b
        .ok ((k, .missing) :: entries, b)

end

/-- The handles that need no directive. -/
def usualHandles : List (String × String) := [("!", "!"), ("!!", commonTags)]

/-- Takes directives: at most one version, which must be 1, and handles, each
once. -/
def directives : (fuel : Nat) → (versioned : Bool) → (handles : List (String × String)) →
    Builder → Except Fault Builder
  | 0, _, _, _ => .error .malformed
  | fuel + 1, versioned, handles, b =>
    match b.tokens with
    | .directive d :: _ =>
      match d with
      | .version major =>
        if versioned || major ≠ 1 then .error .malformed else directives fuel true handles b.advance
      | .handle name meaning =>
        if (handles.lookup name).isSome then .error .malformed
        else directives fuel versioned ((name, meaning) :: handles) b.advance
      | .other => directives fuel versioned handles b.advance
    | _ => .ok { b with handles := handles ++ usualHandles }

/-- Takes the node of the document, with the boundary before it if there is one. -/
def document (b : Builder) : Except Fault (Node × Builder) := do
  let fuel := 4 * b.tokens.length + 8
  match b.tokens with
  | .directive _ :: _ | .documentStart :: _ =>
    let b ← directives fuel false [] b
    let b ← b.take .documentStart
    match b.tokens with
    | .directive _ :: _ | .documentStart :: _ | .documentEnd :: _ | .streamEnd :: _ =>
      .ok (.missing, b)
    | _ => node .block fuel b
  | .streamEnd :: _ => .ok (.missing, b)
  | _ => node .block fuel { b with handles := usualHandles }

/-- After the document only its end may come. Directives announce another one. -/
def finish (b : Builder) : Except Fault Unit := do
  let b := { b with tokens := b.tokens.dropWhile (· = Token.documentEnd) }
  if b.comes [.streamEnd] then .ok ()
  else
    let b ← directives (b.tokens.length + 1) false [] b
    b.refuse

end Builder

/-- The node of the document that tokens describe. A fault after them counts only
when they are in order. -/
def Node.ofTokens (ts : List Token) (fault? : Option Fault) : Except Fault Node := do
  let (root, b) ← Builder.document ⟨ts, fault?, [], [], 0, 0⟩
  b.finish
  .ok root

end SchemaDepot.Yaml
