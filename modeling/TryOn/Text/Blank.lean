/-! White space as the Unicode property `White_Space` lists it, and trimming by it. The zero-width
space, the byte-order mark and the Mongolian vowel separator are not in the property. -/

set_option autoImplicit false

namespace TryOn.Text

def isBlank (c : Char) : Bool :=
  let n := c.toNat
  (0x9 ≤ n && n ≤ 0xD) || n == 0x20 || n == 0x85 || n == 0xA0 || n == 0x1680
    || (0x2000 ≤ n && n ≤ 0x200A) || n == 0x2028 || n == 0x2029 || n == 0x202F
    || n == 0x205F || n == 0x3000

def isBlankText (text : String) : Bool :=
  text.toList.all isBlank

def trimChars (chars : List Char) : List Char :=
  ((chars.dropWhile isBlank).reverse.dropWhile isBlank).reverse

def trim (text : String) : String :=
  String.ofList (trimChars text.toList)

end TryOn.Text
