/-!
White space in the sense of the Unicode property `White_Space`, and text without the white space
at its ends. The zero width space and the byte order mark do not have the property, nor do the
information separators `U+001C` to `U+001F`.
-/

set_option autoImplicit false
set_option relaxedAutoImplicit false

namespace LoginThrottle.Text

def isBlank (c : Char) : Bool :=
  let n := c.toNat
  (0x09 ≤ n && n ≤ 0x0D) || n == 0x20 || n == 0x85 || n == 0xA0 || n == 0x1680
    || (0x2000 ≤ n && n ≤ 0x200A) || n == 0x2028 || n == 0x2029 || n == 0x202F || n == 0x205F
    || n == 0x3000

/-- The text without the white space before its first and after its last other character. -/
def trim (text : List Char) : List Char :=
  ((text.dropWhile isBlank).reverse.dropWhile isBlank).reverse

end LoginThrottle.Text
