/-
# Blank characters

A character is blank when Unicode gives it the property White_Space, or when it
is one of the four separators U+001C to U+001F. Trimming removes blanks from
both ends of a text, and a text is blank when nothing is left. The zero width
space U+200B and the byte order mark U+FEFF are not blank.

Key definitions: `Text.isBlankChar`, `Text.trim`, `Text.isBlank`.
Key theorem: `Text.trimList_eq_nil_iff`.
-/

namespace SchemaDepot.Text

/-- The code points of the blank characters, in order. -/
def blankCodes : List Nat :=
  [0x09, 0x0A, 0x0B, 0x0C, 0x0D, 0x1C, 0x1D, 0x1E, 0x1F, 0x20, 0x85, 0xA0, 0x1680,
   0x2000, 0x2001, 0x2002, 0x2003, 0x2004, 0x2005, 0x2006, 0x2007, 0x2008, 0x2009, 0x200A,
   0x2028, 0x2029, 0x202F, 0x205F, 0x3000]

/-- A character that trimming removes. -/
def isBlankChar (c : Char) : Bool := blankCodes.contains c.toNat

/-- The characters without the blanks at either end. -/
def trimList (cs : List Char) : List Char :=
  ((cs.dropWhile isBlankChar).reverse.dropWhile isBlankChar).reverse

/-- The text without the blanks at either end. -/
def trim (s : String) : String := String.ofList (trimList s.toList)

/-- Nothing but blanks, or nothing at all. -/
def isBlank (s : String) : Bool := s.toList.all isBlankChar

/-! ### What trimming leaves -/

theorem dropWhile_eq_nil_iff_all (p : Char → Bool) :
    ∀ cs : List Char, cs.dropWhile p = [] ↔ cs.all p = true
  | [] => by simp
  | c :: cs => by
    by_cases h : p c = true
    · simp [h, dropWhile_eq_nil_iff_all p cs]
    · simp [h]

theorem trimList_eq_nil_iff (cs : List Char) : trimList cs = [] ↔ cs.all isBlankChar = true := by
  unfold trimList
  rw [List.reverse_eq_nil_iff, dropWhile_eq_nil_iff_all, ← dropWhile_eq_nil_iff_all]
  rw [dropWhile_eq_nil_iff_all, List.all_reverse]
  constructor
  · intro h
    rw [← dropWhile_eq_nil_iff_all]
    cases hd : cs.dropWhile isBlankChar with
    | nil => rfl
    | cons c r =>
      have hc := List.head?_dropWhile_not isBlankChar cs
      rw [hd] at h hc
      simp at h hc
      simp [h.1] at hc
  · intro h
    rw [(dropWhile_eq_nil_iff_all isBlankChar cs).mpr h]
    rfl

end SchemaDepot.Text
