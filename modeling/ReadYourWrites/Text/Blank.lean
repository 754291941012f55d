-- White space of texts. A text is trimmed of every character with the Unicode property White_Space,
-- so a zero width space stays and an ideographic space goes.

namespace ReadYourWrites.Text

-- The characters with the Unicode property White_Space.
def isBlank (c : Char) : Bool :=
  let n := c.toNat
  (9 ≤ n && n ≤ 13) || n == 0x20 || n == 0x85 || n == 0xA0 || n == 0x1680 ||
    (0x2000 ≤ n && n ≤ 0x200A) || n == 0x2028 || n == 0x2029 || n == 0x202F || n == 0x205F ||
    n == 0x3000

def trimStart (cs : List Char) : List Char :=
  cs.dropWhile isBlank

def trimEnd (cs : List Char) : List Char :=
  (cs.reverse.dropWhile isBlank).reverse

-- The text without the white space at its two ends.
def trim (cs : List Char) : List Char :=
  trimEnd (trimStart cs)

end ReadYourWrites.Text
