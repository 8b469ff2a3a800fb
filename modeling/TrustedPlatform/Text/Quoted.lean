import TrustedPlatform.Text.Combining
import TrustedPlatform.Text.Unprintable

/-!
# Quoted text

A text in quotes for a message.  The quote and the backslash are escaped, the usual control
characters have letters, and whatever cannot be seen, or would change the character before it, is
given by its code point.
-/

set_option autoImplicit false

namespace TrustedPlatform.Text.Quoted

def codePoint (character : Char) : String :=
  "\\u\x7b" ++ String.ofList (Nat.toDigits 16 character.toNat) ++ "\x7d"

def escape (quote character : Char) : String :=
  if character = Char.ofNat 0 then "\\0"
  else if character = '\t' then "\\t"
  else if character = '\r' then "\\r"
  else if character = '\n' then "\\n"
  else if character = '\\' ∨ character = quote then "\\" ++ character.toString
  else if isCombining character ∨ isUnprintable character then codePoint character
  else character.toString

def text (content : String) : String :=
  "\"" ++ String.join (content.toList.map (escape (Char.ofNat 34))) ++ "\""

def character (content : Char) : String :=
  "\x27" ++ escape (Char.ofNat 39) content ++ "\x27"

end TrustedPlatform.Text.Quoted
