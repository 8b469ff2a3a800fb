import TrustedPlatform.CommandLine.Parameter

/-!
# Words

A command line is read word by word.  A word that begins with a dash names parameters: with two
dashes one by its long name, with one dash any number by their letters.  Every other word is the
value of the parameter named before it.

A value that stands as a word of its own is entered only when the next parameter is named or the
line ends; an unknown word before that is reported in its place.
-/

set_option autoImplicit false

namespace TrustedPlatform.CommandLine

inductive Word where
  -- Two dashes alone: nothing behind them names a parameter.
  | escape
  | long (name : String) (value? : Option String)
  | letters (letters : List Char)
  | plain (text : String)
  deriving DecidableEq, Repr

def Word.ofLong (text : List Char) : Word :=
  let name := String.ofList (text.takeWhile (· != '='))
  match text.dropWhile (· != '=') with
  | [] => .long name none
  | _ :: value => .long name (some (String.ofList value))

/-- The form of a word.  A dash alone is a value. -/
def Word.ofText (text : String) : Word :=
  match text.toList with
  | ['-', '-'] => .escape
  | '-' :: '-' :: rest => .ofLong rest
  | '-' :: letter :: rest => .letters (letter :: rest)
  | _ => .plain text

structure Pending where
  parameter : Parameter
  value? : Option String

/-- How far a command line is read. -/
structure Progress where
  given : Given
  pending? : Option Pending

namespace Progress

def start : Progress := ⟨.empty, none⟩

def settle (progress : Progress) : Except Refusal Given :=
  match progress.pending? with
  | none => .ok progress.given
  | some ⟨_, none⟩ => .error .unusableValue
  | some ⟨parameter, some value⟩ => progress.given.enter parameter [value]

def enter (progress : Progress) (parameter : Parameter) (written : List String) :
    Except Refusal Progress := do
  let given ← progress.settle
  return ⟨← given.enter parameter written, none⟩

def await (progress : Progress) (parameter : Parameter) : Except Refusal Progress := do
  return ⟨← progress.settle, some ⟨parameter, none⟩⟩

def readLong (parameters : List Parameter) (progress : Progress) (name : String)
    (value? : Option String) : Except Refusal Progress :=
  match parameters.find? fun parameter => parameter.long == name with
  | none => .error .unknownArgument
  | some parameter =>
    match parameter.form.takesValue, value? with
    | true, none => progress.await parameter
    | true, some value => progress.enter parameter [value]
    | false, none => progress.enter parameter []
    | false, some _ => .error .surplusValue

/-- Reads letters.  What follows the letter of a parameter with a value is that value; an equals
sign before it does not count. -/
def readLetters (parameters : List Parameter) (progress : Progress) :
    List Char → Except Refusal Progress
  | [] => .ok progress
  | letter :: rest =>
    match parameters.find? fun parameter => parameter.letter? == some letter with
    | none => .error .unknownArgument
    | some parameter =>
      if parameter.form.takesValue then
        match rest with
        | [] => progress.await parameter
        | '=' :: value => progress.enter parameter [String.ofList value]
        | value => progress.enter parameter [String.ofList value]
      else
        match progress.enter parameter [] with
        | .error refusal => .error refusal
        | .ok progress => readLetters parameters progress rest

def readValue (progress : Progress) (text : String) : Except Refusal Progress :=
  match progress.pending? with
  | some ⟨parameter, none⟩ => .ok { progress with pending? := some ⟨parameter, some text⟩ }
  | _ => .error .unknownArgument

def readAll (parameters : List Parameter) (progress : Progress) :
    List String → Except Refusal Given
  | [] => progress.settle
  | text :: rest =>
    let read : Except Refusal Progress :=
      match Word.ofText text with
      | .escape => if rest.isEmpty then .ok progress else .error .unknownArgument
      | .long name value? => progress.readLong parameters name value?
      | .letters letters => progress.readLetters parameters letters
      | .plain text => progress.readValue text
    match read with
    | .error refusal => .error refusal
    | .ok progress => readAll parameters progress rest

end Progress

end TrustedPlatform.CommandLine
