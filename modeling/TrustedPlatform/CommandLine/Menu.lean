import TrustedPlatform.CommandLine.Grammar

/-!
# Menus

A command with subcommands.  Before the subcommand only flags are given; behind it the subcommand
reads on by itself.

* `read_nil`: a menu that is given nothing shows its help.
-/

set_option autoImplicit false

namespace TrustedPlatform.CommandLine

structure Choice (α : Type) where
  name : String
  -- Whether names, one below the other, lead to a command.
  leads : List String → Bool
  read : List String → Except Refusal (Given × α)

def Choice.ofGrammar {α : Type} (name : String) (grammar : Grammar α) : Choice α :=
  ⟨name, List.isEmpty, grammar.read⟩

structure Menu (α : Type) where
  flags : List Parameter
  choices : List (Choice α)

namespace Menu

variable {α : Type}

def helpName : String := "help"

def choice? (menu : Menu α) (name : String) : Option (Choice α) :=
  menu.choices.find? fun choice => choice.name == name

def offers (menu : Menu α) (name : String) : Bool :=
  name == helpName || (menu.choice? name).isSome

def leads (menu : Menu α) : List String → Bool
  | [] => true
  | name :: below =>
    match menu.choice? name with
    | some choice => choice.leads below
    | none => name == helpName && below.isEmpty

def unfinished (given : Given) : Refusal :=
  if given.entries.isEmpty then .nothingGiven else .missingSubcommand

def stray (menu : Menu α) (text : String) : Refusal :=
  if menu.offers text then .unknownArgument else .unknownSubcommand

def readFrom (menu : Menu α) (given : Given) : List String → Except Refusal (Given × α)
  | [] => .error (unfinished given)
  | text :: rest =>
    match menu.choice? text with
    | some choice => (choice.read rest).map fun (below, value) => (given ++ below, value)
    | none =>
      if text = helpName then .error (if menu.leads rest then .help else .unknownSubcommand)
      else
        let progress : Progress := ⟨given, none⟩
        let flags := Grammar.helpParameter :: menu.flags
        let read : Except Refusal Progress :=
          match Word.ofText text with
          | .escape =>
            match rest with
            | [] => .error (unfinished given)
            | next :: _ => .error (menu.stray next)
          | .long name value? => progress.readLong flags name value?
          | .letters letters => progress.readLetters flags letters
          | .plain _ => .error .unknownSubcommand
        match read with
        | .error refusal => .error refusal
        | .ok progress => readFrom menu progress.given rest

def read (menu : Menu α) (words : List String) : Except Refusal (Given × α) :=
  menu.readFrom .empty words

def asChoice (name : String) (menu : Menu α) : Choice α := ⟨name, menu.leads, menu.read⟩

theorem read_nil (menu : Menu α) : menu.read [] = .error .nothingGiven := rfl

end Menu

end TrustedPlatform.CommandLine
