/-!
# Blanks

The blank characters are those with the Unicode property `White_Space`.  The
ASCII separators from U+001C to U+001F, the Mongolian vowel separator and the
zero-width spaces do not have it.
-/

namespace RegisterMachine.Text

def isBlank (c : Char) : Bool :=
  let n := c.toNat
  (0x9 ≤ n && n ≤ 0xd) || n = 0x20 || n = 0x85 || n = 0xa0 || n = 0x1680 ||
    (0x2000 ≤ n && n ≤ 0x200a) || n = 0x2028 || n = 0x2029 || n = 0x202f || n = 0x205f ||
    n = 0x3000

/-- A text without the blanks that it begins with. -/
def trimStart (text : List Char) : List Char := text.dropWhile isBlank

end RegisterMachine.Text
