/-!
# Blank text

The characters with the Unicode property `White_Space`, and trimming by them. Titles, bodies and
names are trimmed with `trim`, and a text counts as blank when nothing remains of it. The table
is the property's complete list of code points; it has no other content.
-/

namespace BoardActivity.Text

/-- A character of the Unicode property `White_Space`. -/
def isBlankChar (c : Char) : Bool :=
  let n := c.toNat
  (0x09 ≤ n && n ≤ 0x0D) || n == 0x20 || n == 0x85 || n == 0xA0 || n == 0x1680 ||
    (0x2000 ≤ n && n ≤ 0x200A) || n == 0x2028 || n == 0x2029 || n == 0x202F || n == 0x205F ||
    n == 0x3000

/-- The characters from the first one that is not blank. -/
def trimStart (cs : List Char) : List Char := cs.dropWhile isBlankChar

/-- The characters up to the last one that is not blank. -/
def trimEnd (cs : List Char) : List Char := (trimStart cs.reverse).reverse

/-- A text without the blanks at its two ends. -/
def trim (s : String) : String := String.ofList (trimEnd (trimStart s.toList))

/-- Nothing remains of a blank text when it is trimmed. -/
def isBlank (s : String) : Bool := (trim s).isEmpty

end BoardActivity.Text
