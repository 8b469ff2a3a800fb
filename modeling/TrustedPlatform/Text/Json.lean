import TrustedPlatform.Text.Numeral

/-!
# JSON documents

A document is read in two steps.  The grammar comes first and keeps numerals and texts as they are
written; what they mean is asked for afterwards, so that a part nobody asks about may hold a number
out of range or half a surrogate pair.

* `takeDigits_append`: the digits at the head of a text, and the rest, are the whole text.
-/

set_option autoImplicit false

namespace TrustedPlatform.Text.Json

/-- A numeral as it is written: the digits in front of the point, those behind it, and the
exponent with its sign. -/
structure Literal where
  negative : Bool
  whole : List Nat
  fraction : List Nat
  exponent : Option (Bool × List Nat)
  deriving DecidableEq, Repr

/-- A character of a text as it is written: as itself, or as a UTF-16 unit in four digits. -/
inductive Symbol where
  | plain (character : Char)
  | unit (value : Nat)
  deriving DecidableEq, Repr

inductive Value where
  | null
  | flag (value : Bool)
  | number (literal : Literal)
  | text (symbols : List Symbol)
  | list (items : List Value)
  | record (members : List (List Symbol × Value))

/-! ## The grammar -/

def isSpace (character : Char) : Bool :=
  character = ' ' ∨ character = '\n' ∨ character = '\t' ∨ character = '\r'

def skipSpace : List Char → List Char := List.dropWhile isSpace

def takeDigits : List Char → List Nat × List Char
  | [] => ([], [])
  | character :: rest =>
    match Numeral.digit? 10 character with
    | none => ([], character :: rest)
    | some digit =>
      let (digits, rest) := takeDigits rest
      (digit :: digits, rest)

def digits? (text : List Char) : Option (List Nat × List Char) :=
  match takeDigits text with
  | ([], _) => none
  | found => some found

/-- The digits in front of the point: zero alone, or digits that do not begin with zero. -/
def whole? (text : List Char) : Option (List Nat × List Char) :=
  match takeDigits text with
  | ([], _) => none
  | (0 :: _ :: _, _) => none
  | found => some found

def fraction? : List Char → Option (List Nat × List Char)
  | '.' :: rest => digits? rest
  | rest => some ([], rest)

def exponent? : List Char → Option (Option (Bool × List Nat) × List Char)
  | letter :: rest =>
    if letter = 'e' ∨ letter = 'E' then
      let (negative, rest) :=
        match rest with
        | '-' :: rest => (true, rest)
        | '+' :: rest => (false, rest)
        | rest => (false, rest)
      (digits? rest).map fun (digits, rest) => (some (negative, digits), rest)
    else some (none, letter :: rest)
  | [] => some (none, [])

def literal? (text : List Char) : Option (Literal × List Char) := do
  let (negative, text) :=
    match text with
    | '-' :: rest => (true, rest)
    | rest => (false, rest)
  let (whole, text) ← whole? text
  let (fraction, text) ← fraction? text
  let (exponent, text) ← exponent? text
  return (⟨negative, whole, fraction, exponent⟩, text)

def escape? : Char → Option Char
  | '"' => some '"'
  | '\\' => some '\\'
  | '/' => some '/'
  | 'b' => some '\x08'
  | 'f' => some '\x0c'
  | 'n' => some '\n'
  | 'r' => some '\r'
  | 't' => some '\t'
  | _ => none

def unit? (first second third fourth : Char) : Option Nat :=
  [first, second, third, fourth].foldlM
    (fun value character => (Numeral.digit? 16 character).map (value * 16 + ·)) 0

def symbols? : List Char → Option (List Symbol × List Char)
  | [] => none
  | '"' :: rest => some ([], rest)
  | '\\' :: 'u' :: first :: second :: third :: fourth :: rest => do
    let value ← unit? first second third fourth
    let (symbols, rest) ← symbols? rest
    return (.unit value :: symbols, rest)
  | '\\' :: letter :: rest => do
    let character ← escape? letter
    let (symbols, rest) ← symbols? rest
    return (.plain character :: symbols, rest)
  | character :: rest =>
    if character < ' ' ∨ character = '\\' then none
    else do
      let (symbols, rest) ← symbols? rest
      return (.plain character :: symbols, rest)

def word? (word : String) (text : List Char) : Option (List Char) :=
  if word.toList.isPrefixOf text then some (text.drop word.length) else none

mutual

/-- A value.  The count bounds the steps; twice the length of the text is always enough. -/
def value? : Nat → List Char → Option (Value × List Char)
  | 0, _ => none
  | steps + 1, text =>
    match skipSpace text with
    | 'n' :: rest => (word? "ull" rest).map fun rest => (.null, rest)
    | 't' :: rest => (word? "rue" rest).map fun rest => (.flag true, rest)
    | 'f' :: rest => (word? "alse" rest).map fun rest => (.flag false, rest)
    | '"' :: rest => (symbols? rest).map fun (symbols, rest) => (.text symbols, rest)
    | '[' :: rest =>
      match skipSpace rest with
      | ']' :: rest => some (.list [], rest)
      | rest => (items? steps rest).map fun (items, rest) => (.list items, rest)
    | '\x7b' :: rest =>
      match skipSpace rest with
      | '\x7d' :: rest => some (.record [], rest)
      | rest => (members? steps rest).map fun (members, rest) => (.record members, rest)
    | rest => (literal? rest).map fun (literal, rest) => (.number literal, rest)

def items? : Nat → List Char → Option (List Value × List Char)
  | 0, _ => none
  | steps + 1, text => do
    let (item, text) ← value? steps text
    match skipSpace text with
    | ']' :: rest => some ([item], rest)
    | ',' :: rest =>
      let (items, rest) ← items? steps rest
      some (item :: items, rest)
    | _ => none

def members? : Nat → List Char → Option (List (List Symbol × Value) × List Char)
  | 0, _ => none
  | steps + 1, text =>
    match skipSpace text with
    | '"' :: text => do
      let (name, text) ← symbols? text
      match skipSpace text with
      | ':' :: text =>
        let (value, text) ← value? steps text
        match skipSpace text with
        | '\x7d' :: rest => some ([(name, value)], rest)
        | ',' :: rest =>
          let (members, rest) ← members? steps rest
          some ((name, value) :: members, rest)
        | _ => none
      | _ => none
    | _ => none

end

def parse (document : String) : Option Value :=
  match value? (2 * document.length + 1) document.toList with
  | some (value, rest) => if (skipSpace rest).isEmpty then some value else none
  | none => none

/-! ## What numerals and texts mean -/

/-- Takes digits into a significand as long as it fits 64 bits: the significand, and how many
digits were not taken. -/
def absorb (significand : Nat) : List Nat → Nat × Nat
  | [] => (significand, 0)
  | digit :: rest =>
    if UInt64.size ≤ significand * 10 + digit then (significand, rest.length + 1)
    else absorb (significand * 10 + digit) rest

def powerOfTen (exponent : Nat) : Float := Float.ofScientific 1 false exponent

def highestPower : Nat := 308

def shrink (number : Float) (exponent : Nat) : Float :=
  if exponent ≤ highestPower then number / powerOfTen exponent
  else if number == 0 then number
  else shrink (number / powerOfTen highestPower) (exponent - highestPower)
termination_by exponent
decreasing_by
  simp only [highestPower] at *
  omega

/-- A significand times a power of ten, unless that is out of range. -/
def scale (significand : Nat) : Int → Option Float
  | .ofNat exponent =>
    if exponent ≤ highestPower then
      let number := significand.toUInt64.toFloat * powerOfTen exponent
      if number.isInf then none else some number
    else if significand = 0 then some 0
    else none
  | .negSucc exponent => some (shrink significand.toUInt64.toFloat (exponent + 1))

/-- What a numeral stands for: a whole number of at most 64 bits, or a fraction. -/
inductive Number where
  | whole (value : Int)
  | fraction (value : Float)

namespace Literal

/-- The exponent that a numeral is written with; from 31 bits on it counts as beyond any number. -/
def writtenExponent (literal : Literal) : Option Int :=
  match literal.exponent with
  | none => some 0
  | some (negative, digits) =>
    let size : Nat := digits.foldl (fun size digit => size * 10 + digit) 0
    if UInt32.size / 2 ≤ size then none else some (if negative then -(size : Int) else size)

def magnitude (literal : Literal) : Option Float :=
  let (whole, wholeLeft) := absorb 0 literal.whole
  let (significand, fractionLeft) := absorb whole literal.fraction
  match literal.writtenExponent with
  | some exponent =>
    scale significand
      (exponent + (wholeLeft : Int) - ((literal.fraction.length - fractionLeft : Nat) : Int))
  | none =>
    if significand ≠ 0 ∧ literal.exponent.any fun written => !written.1 then none else some 0

/-- What a numeral stands for, unless that is out of range.  Zero with a sign is no whole number. -/
def value? (literal : Literal) : Option Number :=
  let (whole, left) := absorb 0 literal.whole
  if literal.fraction.isEmpty ∧ literal.exponent.isNone ∧ left = 0 ∧
      (!literal.negative ∨ (0 < whole ∧ whole ≤ UInt64.size / 2)) then
    some (.whole (if literal.negative then -(whole : Int) else whole))
  else
    literal.magnitude.map fun magnitude =>
      .fraction (if literal.negative then -magnitude else magnitude)

end Literal

namespace Number

def toFloat : Number → Float
  | .whole value =>
    if value < 0 then -(value.natAbs.toUInt64.toFloat) else value.natAbs.toUInt64.toFloat
  | .fraction value => value

def natural? (bound : Nat) : Number → Option Nat
  | .whole (.ofNat value) => if value ≤ bound then some value else none
  | _ => none

end Number

def isLeading (unit : Nat) : Bool := 0xd800 ≤ unit ∧ unit < 0xdc00

def isTrailing (unit : Nat) : Bool := 0xdc00 ≤ unit ∧ unit < 0xe000

/-- The characters of a text, unless it holds half a surrogate pair. -/
def characters? : List Symbol → Option (List Char)
  | [] => some []
  | .plain character :: rest => (characters? rest).map (character :: ·)
  | .unit first :: rest =>
    if isTrailing first then none
    else if isLeading first then
      match rest with
      | .unit second :: rest =>
        if isTrailing second then
          (characters? rest).map
            (Char.ofNat (0x10000 + (first - 0xd800) * 0x400 + (second - 0xdc00)) :: ·)
        else none
      | _ => none
    else (characters? rest).map (Char.ofNat first :: ·)

def text? (symbols : List Symbol) : Option String := (characters? symbols).map String.ofList

mutual

/-- How deep lists and records lie in each other, if every number is in range and every text is
whole. -/
def Value.depth? : Value → Option Nat
  | .null => some 0
  | .flag _ => some 0
  | .number literal => literal.value?.map fun _ => 0
  | .text symbols => (text? symbols).map fun _ => 0
  | .list items => (itemsDepth? items).map (· + 1)
  | .record members => (membersDepth? members).map (· + 1)

def itemsDepth? : List Value → Option Nat
  | [] => some 0
  | item :: items => do
    let first ← item.depth?
    let others ← itemsDepth? items
    return max first others

def membersDepth? : List (List Symbol × Value) → Option Nat
  | [] => some 0
  | (name, value) :: members => do
    let _ ← text? name
    let first ← value.depth?
    let others ← membersDepth? members
    return max first others

end

theorem takeDigits_append (text : List Char) :
    ∃ taken, text = taken ++ (takeDigits text).2 ∧ taken.length = (takeDigits text).1.length := by
  induction text with
  | nil => exact ⟨[], rfl, rfl⟩
  | cons character rest inductionHypothesis =>
    unfold takeDigits
    cases found : Numeral.digit? 10 character with
    | none => exact ⟨[], rfl, rfl⟩
    | some digit =>
      obtain ⟨taken, whole, length⟩ := inductionHypothesis
      refine ⟨character :: taken, ?_, ?_⟩
      · simpa using whole
      · simpa using length

end TrustedPlatform.Text.Json
