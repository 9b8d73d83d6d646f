/-!
# FaceAnnotator.Text.Blank

**Blank characters and trimming.**

A blank is any of the twenty-five characters that the Unicode property `White_Space` lists. A line
of nothing but blanks holds no frame, and a label loses the blanks at its ends when it is shown.
-/

namespace FaceAnnotator.Text

/-- Whether a character has the Unicode property `White_Space`. -/
def isBlank (c : Char) : Bool :=
  let n := c.toNat
  (9 ≤ n && n ≤ 13) || n == 0x20 || n == 0x85 || n == 0xA0 || n == 0x1680 ||
    (0x2000 ≤ n && n ≤ 0x200A) || n == 0x2028 || n == 0x2029 || n == 0x202F || n == 0x205F ||
    n == 0x3000

/-- The text without the blanks before it. -/
def trimStart (text : List Char) : List Char := text.dropWhile isBlank

/-- The text without the blanks after it. -/
def trimEnd (text : List Char) : List Char := (text.reverse.dropWhile isBlank).reverse

/-- The text without the blanks at its two ends. -/
def trim (text : List Char) : List Char := trimEnd (trimStart text)

end FaceAnnotator.Text
