import TrustedPlatform.CommandLine.Word

/-!
# Grammars

What a command may be given, together with the command that comes of it.  A grammar for a command
is put together from grammars for its parameters, so that a parameter is declared where its value
is used.

* `parameters_seq`: the whole knows the parameters of its parts, and no others.
-/

set_option autoImplicit false

namespace TrustedPlatform.CommandLine

abbrev Reading (α : Type) := String → Except Refusal α

namespace Reading

def text : Reading String := .ok

def path : Reading String := fun text =>
  if text.isEmpty then .error .unusableValue else .ok text

def operand {α : Type} (read : String → Except Operand.Fault α) : Reading α := fun text =>
  (read text).mapError .unreadable

def oneOf {α : Type} (choices : List (String × α)) : Reading α := fun text =>
  match choices.lookup text with
  | none => .error .unusableValue
  | some value => .ok value

end Reading

/-- What a command may be given, and what comes of it. -/
structure Grammar (α : Type) where
  parameters : List Parameter
  build : Given → Except Refusal α

namespace Grammar

variable {α β : Type}

instance : Applicative Grammar where
  pure value := ⟨[], fun _ => .ok value⟩
  map f grammar := ⟨grammar.parameters, fun given => (grammar.build given).map f⟩
  seq first second :=
    ⟨first.parameters ++ (second ()).parameters, fun given =>
      match first.build given with
      | .error refusal => .error refusal
      | .ok f => ((second ()).build given).map f⟩

def flag (long : String) (letter? : Option Char) : Grammar Bool where
  parameters := [⟨long, letter?, .flag, fun _ => .ok ()⟩]
  build given := .ok (given.has long)

def parameter (long : String) (letter? : Option Char) (form : Form) (read : Reading α) :
    Parameter :=
  ⟨long, letter?, form, fun text => (read text).map fun _ => ()⟩

def optional (long : String) (letter? : Option Char) (read : Reading α) : Grammar (Option α) where
  parameters := [parameter long letter? .single read]
  build given := (given.values long).head?.mapM read

def required (long : String) (letter? : Option Char) (read : Reading α) : Grammar α where
  parameters := [parameter long letter? .single read]
  build given :=
    match given.values long with
    | [] => .error .missingArgument
    | text :: _ => read text

def listed (long : String) (letter? : Option Char) (read : Reading α) : Grammar (List α) where
  parameters := [parameter long letter? .listed read]
  build given :=
    match given.values long with
    | [] => .error .missingArgument
    | texts => texts.mapM read

def usually (long : String) (letter? : Option Char) (read : Reading α) (value : α) : Grammar α :=
  (fun found => found.getD value) <$> optional long letter? read

def exclusive (first second : String) (grammar : Grammar α) : Grammar α where
  parameters := grammar.parameters
  build given :=
    if given.has first && given.has second then .error .conflict else grammar.build given

/-- The value of the first part if there is one; the second part is needed only without it. -/
def orElse (first : Grammar (Option α)) (second : Grammar α) : Grammar α where
  parameters := first.parameters ++ second.parameters
  build given :=
    match first.build given with
    | .error refusal => .error refusal
    | .ok (some value) => .ok value
    | .ok none => second.build given

def helpParameter : Parameter := ⟨"help", some 'h', .help, fun _ => .ok ()⟩

def read (grammar : Grammar α) (words : List String) : Except Refusal (Given × α) := do
  let given ← Progress.start.readAll (helpParameter :: grammar.parameters) words
  return (given, ← grammar.build given)

theorem parameters_seq (first : Grammar (α → β)) (second : Grammar α) :
    (first <*> second).parameters = first.parameters ++ second.parameters := rfl

end Grammar

end TrustedPlatform.CommandLine
