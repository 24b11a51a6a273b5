/-!
# Blank text

The property `White_Space` of Unicode, and the texts that hold nothing else.  A name, an id or a
key that is blank counts as missing.
-/

namespace Flowgraph.Text

/-- **White space**: the 25 code points with the Unicode property `White_Space`. -/
def isSpace (c : Char) : Bool :=
  let n := c.toNat
  (0x09 ≤ n && n ≤ 0x0D) || n == 0x20 || n == 0x85 || n == 0xA0 || n == 0x1680
    || (0x2000 ≤ n && n ≤ 0x200A) || n == 0x2028 || n == 0x2029 || n == 0x202F || n == 0x205F
    || n == 0x3000

/-- **A blank text** is empty after trimming: each of its characters is white space. -/
def isBlank (s : String) : Bool := s.toList.all isSpace

/-- The text without white space at its start. -/
def trimStart (s : List Char) : List Char := s.dropWhile isSpace

end Flowgraph.Text
