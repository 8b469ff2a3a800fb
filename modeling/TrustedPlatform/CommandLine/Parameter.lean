import TrustedPlatform.CommandLine.Operand

/-!
# Parameters

What can be given on a command line by name, and what was given.  Each value is checked when it is
entered, so that the first thing wrong on the line is what is reported.

* `enter_eq_conflict`: what may be given once is not entered a second time.
-/

set_option autoImplicit false

namespace TrustedPlatform.CommandLine

inductive Refusal where
  | help
  | version
  | nothingGiven
  | missingSubcommand
  | unknownSubcommand
  | unknownArgument
  | surplusValue
  | conflict
  -- A value is missing, empty, or none of those that can be chosen from.
  | unusableValue
  | unreadable (fault : Operand.Fault)
  | missingArgument
  deriving DecidableEq, Repr

namespace Refusal

def exitStatus : Refusal → Nat
  | .help | .version => 0
  | _ => 2

def message : Refusal → String
  | .help => "a subcommand and its arguments are expected"
  | .version => "version 0.1.0"
  | .nothingGiven | .missingSubcommand => "a subcommand is missing"
  | .unknownSubcommand => "there is no such subcommand"
  | .unknownArgument => "there is no such argument"
  | .surplusValue => "a flag takes no value"
  | .conflict => "arguments exclude each other"
  | .unusableValue => "a value is missing or cannot be used"
  | .unreadable fault => fault.message
  | .missingArgument => "an argument is missing"

def detail? : Refusal → Option String
  | .unreadable fault => some fault.message
  | _ => none

end Refusal

/-- How a parameter is given. -/
inductive Form where
  | flag
  -- By its name alone, which asks for help instead of a command.
  | help
  -- By its name alone, which asks for the version instead of a command.
  | version
  | single
  -- With a list of values between commas, any number of times.
  | listed
  deriving DecidableEq, Repr

def Form.takesValue : Form → Bool
  | .single | .listed => true
  | .flag | .help | .version => false

structure Parameter where
  long : String
  letter? : Option Char
  form : Form
  check : String → Except Refusal Unit

structure Given where
  entries : List (String × List String)
  deriving DecidableEq, Repr

namespace Given

def empty : Given := ⟨[]⟩

def append (first second : Given) : Given := ⟨first.entries ++ second.entries⟩

instance : Append Given := ⟨append⟩

def has (given : Given) (name : String) : Bool := given.entries.any fun entry => entry.1 == name

def values (given : Given) (name : String) : List String :=
  (given.entries.filter fun entry => entry.1 == name).flatMap Prod.snd

def valuesOf (form : Form) (text : String) : List String :=
  match form with
  | .listed => text.splitOn ","
  | _ => [text]

def add (given : Given) (parameter : Parameter) (written : List String) : Except Refusal Given :=
  let values := written.flatMap (valuesOf parameter.form)
  match values.forM parameter.check with
  | .error refusal => .error refusal
  | .ok () => .ok ⟨given.entries ++ [(parameter.long, values)]⟩

def enter (given : Given) (parameter : Parameter) (written : List String) : Except Refusal Given :=
  match parameter.form with
  | .help => .error .help
  | .version => .error .version
  | .listed => given.add parameter written
  | .flag | .single =>
    if given.has parameter.long then .error .conflict else given.add parameter written

theorem enter_eq_conflict (given : Given) (parameter : Parameter) (written : List String)
    (once : parameter.form = .flag ∨ parameter.form = .single)
    (again : given.has parameter.long = true) :
    given.enter parameter written = .error .conflict := by
  rcases once with form | form <;> simp [enter, form, again]

end Given

end TrustedPlatform.CommandLine
