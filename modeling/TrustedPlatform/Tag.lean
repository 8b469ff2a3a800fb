/-!
# Tags

The first two bytes of a request or a response.  A tag tells the two apart and announces the count
of authorization trailers at the end.
-/

set_option autoImplicit false

namespace TrustedPlatform

inductive Tag where
  | request
  | requestOneTrailer
  | requestTwoTrailers
  | response
  | responseOneTrailer
  | responseTwoTrailers
  deriving DecidableEq, Repr

namespace Tag

def all : List Tag :=
  [.request, .requestOneTrailer, .requestTwoTrailers,
   .response, .responseOneTrailer, .responseTwoTrailers]

def code : Tag → UInt16
  | .request => 0xc1
  | .requestOneTrailer => 0xc2
  | .requestTwoTrailers => 0xc3
  | .response => 0xc4
  | .responseOneTrailer => 0xc5
  | .responseTwoTrailers => 0xc6

def name : Tag → String
  | .request => "RquCommand"
  | .requestOneTrailer => "RquAuth1Command"
  | .requestTwoTrailers => "RquAuth2Command"
  | .response => "RspCommand"
  | .responseOneTrailer => "RspAuth1Command"
  | .responseTwoTrailers => "RspAuth2Command"

def ofCode? (code : UInt16) : Option Tag :=
  all.find? fun tag => tag.code == code

def ofTrailers? : Nat → Option Tag
  | 0 => some .request
  | 1 => some .requestOneTrailer
  | 2 => some .requestTwoTrailers
  | _ => none

/-- The count of trailers that the tag of a response announces; a request's tag announces none to
its reader. -/
def responseTrailers? : Tag → Option Nat
  | .response => some 0
  | .responseOneTrailer => some 1
  | .responseTwoTrailers => some 2
  | _ => none

theorem ofCode?_code (tag : Tag) : ofCode? tag.code = some tag := by
  cases tag <;> decide

end Tag

end TrustedPlatform
