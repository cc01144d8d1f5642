/-
# Line endings and decoding

A file is a sequence of bytes in UTF-8. Its text has one kind of line ending, the
line feed: a carriage return with a line feed after it, and a carriage return
alone, are both turned into one. A byte order mark is a character like others.

Key definitions: `Text.unifyLines`, `Text.decode`, `Text.withoutFinalBreak`.
Key theorem: `Text.not_mem_unifyLines`.
-/

namespace SchemaDepot.Text

/-- The characters with every line ending turned into a line feed. -/
def unifyLines : List Char → List Char
  | [] => []
  | '\r' :: '\n' :: cs => '\n' :: unifyLines cs
  | '\r' :: cs => '\n' :: unifyLines cs
  | c :: cs => c :: unifyLines cs

/-- The characters without one line feed at the end, if there is one. -/
def withoutFinalBreak (cs : List Char) : List Char :=
  if cs.getLast? = some '\n' then cs.dropLast else cs

/-- The text of a file, if its bytes are UTF-8. -/
def decode (bytes : ByteArray) : Option String :=
  (String.fromUTF8? bytes).map fun s => String.ofList (unifyLines s.toList)

/-- No carriage return is left. -/
theorem not_mem_unifyLines (cs : List Char) : '\r' ∉ unifyLines cs := by
  fun_induction unifyLines cs with
  | case1 => simp
  | case2 cs ih => simpa using ih
  | case3 cs _ ih => simpa using ih
  | case4 c cs _ h ih =>
    simp only [List.mem_cons, not_or]
    refine ⟨fun hc => h hc.symm, ih⟩

end SchemaDepot.Text
