/-
Blank characters, and text with its outer blanks removed.

A blank is a character that the Unicode standard calls white space, or one of
the four information separators U+001C to U+001F. The zero-width space U+200B
and the byte order mark U+FEFF are not blanks.
-/
import TableSink.Text.Basic

namespace TableSink.Text

/-- The blanks, as inclusive ranges of code points. -/
def blankRanges : List (Nat × Nat) :=
  [(0x09, 0x0D), (0x1C, 0x20), (0x85, 0x85), (0xA0, 0xA0), (0x1680, 0x1680), (0x2000, 0x200A),
    (0x2028, 0x2029), (0x202F, 0x202F), (0x205F, 0x205F), (0x3000, 0x3000)]

/-- A blank separates words and is removed from the ends of a text. -/
def isBlank (c : Char) : Bool :=
  blankRanges.any fun (lo, hi) => lo ≤ c.toNat && c.toNat ≤ hi

/-- The text without the blanks it starts with. -/
def stripLeft (s : Text) : Text :=
  s.dropWhile (·.is isBlank)

/-- The text without the blanks at its two ends. -/
def strip (s : Text) : Text :=
  (stripLeft (stripLeft s).reverse).reverse

/-- A text of blanks alone, the empty text among them. -/
def isBlankText (s : Text) : Bool :=
  s.all (·.is isBlank)

end TableSink.Text
