/-
# The values of scalars

A scalar stands for the value its tag says. Underscores in a number do not count.
An integer is binary after `0b`, hexadecimal after `0x`, octal after `0`, decimal
or in base 60. A tag that is written out can stand before any text; then the text
may not be one of a value of that kind.

Key definitions: `Yaml.readInteger`, `Yaml.readDecimal`, `Yaml.readMoment`,
`Yaml.scalarValue`.
-/
import SchemaDepot.Text.Lowercase
import SchemaDepot.Text.Numeral
import SchemaDepot.Text.Occurs
import SchemaDepot.Value
import SchemaDepot.Yaml.Tag
import SchemaDepot.Yaml.Token

namespace SchemaDepot.Yaml

/-- The failure to read a value. -/
def unsuitable {α : Type} (fault : ValueFault) : Except Fault α := .error (.unsuitable (.value fault))

/-! ### Integers -/

/-- The most characters of a literal that a message about an integer shows. -/
def shownLimit : Nat := 200

/-- A text is no integer of a base. -/
def notInteger {α : Type} (base : Nat) (cs : List Char) : Except Fault α :=
  unsuitable (.notInteger base (String.ofList ((Text.quotedList cs).take shownLimit)))

/-- The character is a digit of a base: a decimal digit or a letter, in ASCII. -/
def isBaseDigit (base : Nat) (c : Char) : Bool :=
  (Text.isAsciiDigit c || ('a' ≤ c.toLower && c.toLower ≤ 'z')) && Decimal.valueIn 36 [c] < base

/-- The letter in the mark of a base. -/
def baseLetter? : (base : Nat) → Option Char
  | 2 => some 'b'
  | 8 => some 'o'
  | 16 => some 'x'
  | _ => none

/-- The characters without the mark of a base at their start. -/
def withoutBaseMark (base : Nat) : List Char → List Char
  | '0' :: m :: rest => if some m.toLower = baseLetter? base then rest else '0' :: m :: rest
  | cs => cs

/-- The integer that a numeral of a base denotes: digits, with a sign, gaps around
it and the mark of the base permitted. The digits at the start are counted before
what follows them is looked at. -/
def readNumeral (base : Nat) (cs : List Char) : Except Fault Int :=
  let signed := (Text.asciiNumeral cs).dropWhile Text.isNumeralGap
  let unsigned := withoutBaseMark base (withoutSign signed)
  let digits := unsigned.takeWhile (isBaseDigit base)
  let rest := unsigned.drop digits.length
  let negate (n : Nat) : Int := if signed.head? = some '-' then -(n : Int) else n
  let size := if base = 10 then Decimal.read digits else .ok (Decimal.valueIn base digits)
  match size with
  | .error e => .error (.unsuitable e)
  | .ok n =>
    if digits.isEmpty || !rest.all Text.isNumeralGap then notInteger base cs else .ok (negate n)

/-- The parts between colons in base 60. -/
def sixties (parts : List Int) : Int := parts.foldl (fun n p => 60 * n + p) 0

/-- The text without underscores. -/
def withoutUnderscores (cs : List Char) : List Char := cs.filter (· ≠ '_')

/-- The integer that a text denotes. -/
def readInteger (text : String) : Except Fault Int := do
  let cs := withoutUnderscores text.toList
  let negate (n : Int) : Int := if cs.head? = some '-' then -n else n
  if cs.isEmpty then .error (.unsuitable .emptyNumeral)
  else
    let unsigned := withoutSign cs
    match unsigned with
    | [] => .error (.unsuitable .emptyNumeral)
    | '0' :: 'b' :: ds => (readNumeral 2 ds).map negate
    | '0' :: 'x' :: ds => (readNumeral 16 ds).map negate
    | c :: _ =>
      if unsigned = ['0'] then .ok 0
      else if c = '0' then (readNumeral 8 unsigned).map negate
      else if unsigned.contains ':' then do
        let parts ← (Text.splitAll ':' unsigned).mapM (readNumeral 10)
        .ok (negate (sixties parts))
      else (readNumeral 10 unsigned).map negate

/-! ### Decimals -/

/-- The number that a decimal text denotes. -/
def readFloat (cs : List Char) : Except Fault Binary64 :=
  match Binary64.read? (String.ofList cs) with
  | some x => .ok x
  | none => unsuitable (.notFloat (Text.quoted (String.ofList cs)))

/-- The sum of the parts of a base 60 number, the least one first; `base` is what
the first one counts. -/
def sumSixties : (base : Nat) → (sum : Binary64) → List Binary64 → Except Fault Binary64
  | _, sum, [] => .ok sum
  | base, sum, x :: xs =>
    match Binary64.ofInt base with
    | .infinite _ => .error (.unsuitable .overflow)
    | b => sumSixties (60 * base) (sum.add (x.mul b)) xs

/-- The text is the word for "not a number", in any case and with or without a
sign. -/
def isWordForNan (text : String) : Bool :=
  withoutSign (Text.lowerList (withoutUnderscores text.toList)) = ".nan".toList

/-- The number that a text denotes: a decimal, the words for infinity and for "not
a number" after a point, or parts in base 60. -/
def readDecimal (text : String) : Except Fault Binary64 := do
  let cs := Text.lowerList (withoutUnderscores text.toList)
  let negate (x : Binary64) : Binary64 := if cs.head? = some '-' then x.neg else x
  if cs.isEmpty then .error (.unsuitable .emptyNumeral)
  else
    let unsigned := withoutSign cs
    if unsigned = ".inf".toList then .ok (negate (.infinite false))
    else if unsigned = ".nan".toList then .ok .nan
    else if unsigned.contains ':' then do
      let parts ← (Text.splitAll ':' unsigned).mapM readFloat
      let sum ← sumSixties 1 .zero parts.reverse
      .ok (negate sum)
    else (readFloat unsigned).map negate

/-! ### Dates and moments -/

/-- The digits at the start, as many as permitted, and what is left. -/
def digitsOf (most : Nat) (cs : List Char) : Nat × List Char :=
  let ds := (cs.take most).takeWhile Text.isAsciiDigit
  (Decimal.value ds, cs.drop ds.length)

/-- The microseconds of a fraction of a second. -/
def microseconds (digits : List Char) : Nat :=
  let six := digits.take 6
  Decimal.value (six ++ List.replicate (6 - six.length) '0')

/-- The minutes ahead of universal time that a zone denotes. -/
def zoneOffset? (cs : List Char) : Option Int :=
  match cs with
  | [] => none
  | s :: rest =>
    if s = 'Z' then some 0
    else
      let (hours, rest) := digitsOf 2 rest
      let (minutes, _) := digitsOf 2 (rest.drop 1)
      let total : Int := hours * 60 + minutes
      some (if s = '-' then -total else total)

/-- The value of a calendar operation. -/
def ofCalendar {α : Type} : Except CalendarFault α → Except Fault α
  | .ok a => .ok a
  | .error f => unsuitable (.calendar f)

/-- The date or the moment that a text denotes. Month and day may have one digit. -/
def readMoment (text : String) : Except Fault Value :=
  let cs := Text.withoutFinalBreak text.toList
  match afterDate? 1 cs with
  | none => .error (.unsuitable .notText)
  | some rest =>
    let (year, cs) := digitsOf 4 cs
    let (month, cs) := digitsOf 2 (cs.drop 1)
    let (day, _) := digitsOf 2 (cs.drop 1)
    if rest.isEmpty then (ofCalendar (Date.make year month day)).map .date
    else match afterTimeMark? rest with
      | none => .error (.unsuitable .notText)
      | some time =>
        match afterTime? time with
        | none => .error (.unsuitable .notText)
        | some zone =>
          let isWhole := zone.isEmpty
          let zone := zone.dropWhile isMomentGap
          if !isWhole && !isZone zone then .error (.unsuitable .notText)
          else
            let (hour, time) := digitsOf 2 time
            let (minute, time) := digitsOf 2 (time.drop 1)
            let (second, time) := digitsOf 2 (time.drop 1)
            let fraction := match time with
              | '.' :: ds => ds.takeWhile Text.isAsciiDigit
              | _ => []
            (ofCalendar (Moment.make year month day hour minute second (microseconds fraction)
              (zoneOffset? zone))).map .moment

/-! ### Bytes -/

/-- The 64 characters that stand for six bits each. -/
def sextets : List Char :=
  "ABCDEFGHIJKLMNOPQRSTUVWXYZabcdefghijklmnopqrstuvwxyz0123456789+/".toList

/-- The bytes that characters of six bits denote: `have` counts the bits that are
held back, `bits` holds them, `pads` counts the padding marks in a row. Other
characters do not count. Padding that completes a group ends the bytes. -/
def readBytes : (have_ bits pads : Nat) → List Char → Option (List UInt8)
  | have_, _, _, [] => if have_ = 0 then some [] else none
  | have_, bits, pads, c :: cs =>
    let sextetsHeld := match have_ with | 0 => 0 | 6 => 1 | 4 => 2 | _ => 3
    if c = '=' then
      if 2 ≤ sextetsHeld && 4 ≤ sextetsHeld + pads + 1 then some []
      else readBytes have_ bits (if 2 ≤ sextetsHeld then pads + 1 else pads) cs
    else match sextets.idxOf? c with
      | none => readBytes have_ bits pads cs
      | some n =>
        let all := bits * 64 + n
        if have_ = 0 then readBytes 6 n 0 cs
        else
          let left := have_ - 2
          (readBytes left (all % twoTo left) 0 cs).map ((all / twoTo left).toUInt8 :: ·)

/-! ### All kinds -/

/-- The value of a truth word, in any case. -/
def readTruth (text : String) : Except Fault Bool :=
  let word := text.map Char.toLower
  if ["yes", "true", "on"].contains word then .ok true
  else if ["no", "false", "off"].contains word then .ok false
  else .error (.unsuitable .notTruthWord)

/-- The value of a scalar text by its tag. -/
def scalarValue (tag : Tag) (text : String) : Except Fault Value :=
  match tag with
  | .text => .ok (.text text)
  | .integer => (readInteger text).map .int
  | .decimal => (readDecimal text).map .float
  | .truth => (readTruth text).map .bool
  | .nothing => .ok .null
  | .moment => readMoment text
  | .bytes =>
    if !text.toList.all fun c => c.toNat < 0x80 then .error .malformed
    else match readBytes 0 0 0 text.toList with
      | some bs => .ok (.bytes bs)
      | none => .error .malformed
  | .mapping | .sequence | .set | .pairs | .default | .unknown => .error .malformed

end SchemaDepot.Yaml
