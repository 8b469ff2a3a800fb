/-!
# Blanks at the ends of a text

The blanks are the characters with the Unicode property White_Space.
-/

set_option autoImplicit false

namespace TrustedPlatform.Text

def isBlank (character : Char) : Bool :=
  let point := character.toNat
  (0x09 ≤ point && point ≤ 0x0d) || (0x2000 ≤ point && point ≤ 0x200a) ||
    [0x20, 0x85, 0xa0, 0x1680, 0x2028, 0x2029, 0x202f, 0x205f, 0x3000].contains point

def dropAtEnd (drop : Char → Bool) (text : String) : String :=
  String.ofList (text.toList.reverse.dropWhile drop).reverse

def trim (text : String) : String :=
  dropAtEnd isBlank (String.ofList (text.toList.dropWhile isBlank))

end TrustedPlatform.Text
