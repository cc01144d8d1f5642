/-
# Plain data

The manifest, once read, and the arguments of the depot's operations are plain
data: nothing, truth values, numbers, texts, dates, sequences, sets and
mappings. A mapping keeps its keys in the order they first came; a repeated key
keeps its place and takes the last value.

A collection that several values share, or that holds itself, is kept apart and
stands in each of them by its number.

Not covered: a value handed over, not read from a document, that is so deep that its
literal would take more than `callLimit` calls. It is too deep to be written, but is
written here. What a document holds is kept apart, and has the limit of `Pool.depthLimit`.

Key definitions: `Value`, `Value.same`, `Value.isHashable`, `Value.isTruthy`,
`Value.literal`, `Value.shown`, `Value.members`.
-/
import SchemaDepot.Calendar
import SchemaDepot.Number.Shortest
import SchemaDepot.Log
import SchemaDepot.Text.Quoted

namespace SchemaDepot

/-- A piece of plain data. -/
inductive Value
  | null
  | bool (b : Bool)
  | int (n : Int)
  | float (x : Binary64)
  | text (s : String)
  | bytes (bs : List UInt8)
  | date (d : Date)
  | moment (m : Moment)
  | list (items : List Value)
  | tuple (items : List Value)
  | set (items : List Value)
  | map (entries : List (Value × Value))
  /-- A collection that is kept apart, by its number. -/
  | shared (number : Nat)

namespace Value

instance : Inhabited Value := ⟨.null⟩

/-! ### Sameness

Truth values count as the numbers 0 and 1, and a number is the same in either
kind; "not a number" is the same as nothing. Only values that can be hashed are
compared. -/

/-- The integer a value stands for when it is compared as a number. -/
def asInt? : Value → Option Int
  | .bool b => some (if b then 1 else 0)
  | .int n => some n
  | _ => none

mutual

/-- Both values are the same key. -/
def same : Value → Value → Bool
  | .null, .null => true
  | .text s, .text t => s == t
  | .bytes s, .bytes t => s == t
  | .date d, .date e => d == e
  | .moment m, .moment n => m.same n
  | .float x, .float y => x.same y
  | .tuple xs, .tuple ys => sameItems xs ys
  | v, w =>
    match v.asInt?, w.asInt? with
    | some m, some n => m == n
    | some m, none => (match w with | .float y => y.eqInt m | _ => false)
    | none, some n => (match v with | .float x => x.eqInt n | _ => false)
    | none, none => false

/-- Both lists have the same keys at the same places. -/
def sameItems : List Value → List Value → Bool
  | [], [] => true
  | x :: xs, y :: ys => same x y && sameItems xs ys
  | _, _ => false

end

mutual

/-- The value can be a key: it is no list, set or mapping, and holds none. -/
def isHashable : Value → Bool
  | .list _ | .set _ | .map _ | .shared _ => false
  | .tuple items => allHashable items
  | _ => true

/-- Every one of the values can be a key. -/
def allHashable : List Value → Bool
  | [] => true
  | v :: vs => isHashable v && allHashable vs

end

/-- The value counts as true: it is not nothing, not zero and not empty. A
collection that is kept apart is not looked into. -/
def isTruthy : Value → Bool
  | .null => false
  | .bool b => b
  | .int n => n != 0
  | .float x => !x.isZero
  | .text s => !s.isEmpty
  | .bytes bs => !bs.isEmpty
  | .date _ | .moment _ | .shared _ => true
  | .list items | .tuple items | .set items => !items.isEmpty
  | .map entries => !entries.isEmpty

/-! ### Mappings and sets -/

/-- The entries with one more: a key that is there keeps its place. -/
def putEntry (entries : List (Value × Value)) (k v : Value) : List (Value × Value) :=
  if entries.any fun e => same e.1 k then entries.map fun e => if same e.1 k then (e.1, v) else e
  else entries ++ [(k, v)]

/-- The mapping of a list of entries. -/
def mapOf (entries : List (Value × Value)) : Value :=
  .map (entries.foldl (fun es e => putEntry es e.1 e.2) [])

/-- The values without those that are the same as an earlier one. -/
def dedup (items : List Value) : List Value :=
  items.foldl (fun seen v => if seen.any fun w => same w v then seen else seen ++ [v]) []

/-- The value of a text key among the entries. -/
def find? (key : String) (entries : List (Value × Value)) : Option Value :=
  (entries.find? fun e => same e.1 (.text key)).map Prod.snd

/-- The value of a text key, nothing if it is not there. -/
def entry (key : String) (entries : List (Value × Value)) : Value :=
  (find? key entries).getD .null

/-- The members that iterating over the value gives: the characters of a text,
the items of a sequence or set, the keys of a mapping. -/
def members : Value → Except Error (List Value)
  | .text s => .ok (s.toList.map fun c => .text (String.ofList [c]))
  | .bytes bs => .ok (bs.map fun b => .int b.toNat)
  | .list items | .tuple items | .set items => .ok items
  | .map entries => .ok (entries.map Prod.fst)
  | _ => .error .wrongKind

/-! ### Texts and literals

The literal of a text is quoted and that of a collection has the literals of its
members in brackets. The text of a value is its literal, except that a text is
itself and dates and moments have their plain form. -/

/-- One byte in a literal of bytes. -/
def escapeByte (mark : Char) (b : UInt8) : List Char :=
  let c := Char.ofNat b.toNat
  if c = mark ∨ c = '\\' then ['\\', c]
  else if c = '\n' then ['\\', 'n']
  else if c = '\r' then ['\\', 'r']
  else if c = '\t' then ['\\', 't']
  else if 0x20 ≤ b.toNat ∧ b.toNat < 0x7F then [c]
  else '\\' :: 'x' :: Text.hexDigits 2 b.toNat

/-- The literal of bytes: a `b` and the bytes between quotes. -/
def bytesLiteral (bs : List UInt8) : String :=
  let mark := Text.quoteMark (bs.map fun b => Char.ofNat b.toNat)
  String.ofList ('b' :: mark :: (bs.flatMap (escapeByte mark) ++ [mark]))

/-- Literals with commas between. -/
def commas (shown : List String) : String := ", ".intercalate shown

section

variable (apart : Nat → Except Error String)

mutual

/-- The literal of a value; `apart` gives that of a collection that is kept apart.
An integer of too many digits has none. -/
def literalWith : Value → Except Error String
  | .null => .ok "None"
  | .bool b => .ok (if b then "True" else "False")
  | .int n => Decimal.write n
  | .float x => .ok x.text
  | .text s => .ok (Text.quoted s)
  | .bytes bs => .ok (bytesLiteral bs)
  | .date d => .ok d.literal
  | .moment m => .ok m.literal
  | .list items => do
    let shown ← literalsWith items
    .ok ("[" ++ commas shown ++ "]")
  | .tuple items => do
    let shown ← literalsWith items
    match shown with
    | [one] => .ok ("(" ++ one ++ ",)")
    | _ => .ok ("(" ++ commas shown ++ ")")
  | .set items => do
    let shown ← literalsWith items
    if shown.isEmpty then .ok "set()" else .ok ("\x7b" ++ commas shown ++ "\x7d")
  | .map entries => do
    let shown ← entryLiteralsWith entries
    .ok ("\x7b" ++ commas shown ++ "\x7d")
  | .shared number => apart number

/-- The literals of the values, in order. -/
def literalsWith : List Value → Except Error (List String)
  | [] => .ok []
  | v :: vs => do
    let shown ← literalWith v
    let rest ← literalsWith vs
    .ok (shown :: rest)

/-- The literals of the entries: key, colon, value. -/
def entryLiteralsWith : List (Value × Value) → Except Error (List String)
  | [] => .ok []
  | (k, v) :: es => do
    let key ← literalWith k
    let value ← literalWith v
    let rest ← entryLiteralsWith es
    .ok ((key ++ ": " ++ value) :: rest)

end

/-- The text of a value; `apart` gives that of a collection that is kept apart. -/
def shownWith : Value → Except Error String
  | .text s => .ok s
  | .date d => .ok d.text
  | .moment m => .ok m.text
  | v => literalWith apart v

end

/-- The literal of a value that holds no collection kept apart, however deep it is. -/
def literal (v : Value) : Except Error String := v.literalWith fun _ => .ok "..."

/-- The text of a value that holds no collection kept apart, however deep it is. -/
def shown (v : Value) : Except Error String := v.shownWith fun _ => .ok "..."

/-- What a log line holds for a value. -/
def logField : Value → Except Error Log.FieldValue
  | .null => .ok .absent
  | .list items | .tuple items | .set items => do
    let texts ← items.mapM shown
    .ok (.many texts)
  | v => do
    let text ← v.shown
    .ok (.single text)

end Value

end SchemaDepot
