/-
# Integers in decimal

An integer is written with its decimal digits, without leading zeros, after a
minus sign when it is negative. Writing and reading are bounded: a number of
more than 4300 digits is neither written nor read. Leading zeros count when a
numeral is read.

Key definitions: `tenTo`, `Decimal.digits`, `Decimal.value`, `Decimal.write`, `Decimal.read`.
-/
import SchemaDepot.Error
import SchemaDepot.Text.Numeral

namespace SchemaDepot

/-- A power of ten. -/
def tenTo (n : Nat) : Nat := Nat.pow 10 n

namespace Decimal

/-- The most digits a number may have to be written or read. -/
def digitLimit : Nat := 4300

/-- The decimal digits of a number, the first of them zero only for zero itself. -/
def digits (n : Nat) : List Char := Nat.toDigits 10 n

/-- The number that ASCII digits denote in a base. -/
def valueIn (base : Nat) (cs : List Char) : Nat :=
  cs.foldl (fun n c => base * n + digitOf c) 0
where
  /-- The value of a digit or of a letter that stands for one. -/
  digitOf (c : Char) : Nat :=
    if c ≤ '9' then c.toNat - '0'.toNat
    else if c ≤ 'Z' then c.toNat - 'A'.toNat + 10
    else c.toNat - 'a'.toNat + 10

/-- The number that decimal digits denote. -/
def value (cs : List Char) : Nat := valueIn 10 cs

/-- The characters of an integer: a minus sign if negative, then the digits. -/
def chars (n : Int) : List Char := (if n < 0 then ['-'] else []) ++ digits n.natAbs

/-- The text of an integer, unless it has too many digits. -/
def write (n : Int) : Except Error String :=
  if n.natAbs < tenTo digitLimit then .ok (String.ofList (chars n))
  else .error (.value (.numberTooLong digitLimit))

/-- The number that a numeral of decimal digits denotes, unless it has too many. -/
def read (cs : List Char) : Except Error Nat :=
  if cs.length ≤ digitLimit then .ok (value cs)
  else .error (.value (.numeralTooLong digitLimit cs.length))

end Decimal

end SchemaDepot
