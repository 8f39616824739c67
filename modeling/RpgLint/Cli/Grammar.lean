import RpgLint.Text.Letters

/-!
# Grammars of command lines

A command has options, written with two hyphens and a name or with one hyphen and a letter, and may
have one positional parameter or commands of its own.

## Main definitions

* `ValueForm` — what the value of a parameter has to be.
* `Parameter` — an option or a positional parameter.
* `Grammar` — a command with its parameters and its own commands.
* `UsageError` — why a command line is not accepted.
* `Grammar.help` — the commands and options of a command.
-/

namespace RpgLint.Cli

/-- Why a command line is not accepted.  Asking for help or for the version is among the reasons. -/
inductive UsageError
  /-- Help is asked for. -/
  | helpWanted
  /-- The version is asked for. -/
  | versionWanted
  /-- Nothing is said, where help is shown instead. -/
  | nothingSaid
  /-- A command has to follow. -/
  | missingCommand
  /-- No command has the name. -/
  | unknownCommand (name : String)
  /-- An argument that nothing asks for. -/
  | unknownArgument (argument : String)
  /-- A parameter is given twice. -/
  | repeated (parameter : String)
  /-- A value for a parameter that takes none. -/
  | unexpectedValue (parameter : String)
  /-- A value is missing or empty. -/
  | missingValue (parameter : String)
  /-- A value that is not on the list. -/
  | unlistedValue (parameter value : String)
  /-- A value of the wrong form, with what is wrong about it. -/
  | malformedValue (parameter value reason : String)
  /-- A parameter has to be given. -/
  | missingParameter (parameter : String)
  deriving DecidableEq, Repr

/-- What a caller is told: a wish for help is no error. -/
def UsageError.exitCode : UsageError → Nat
  | helpWanted | versionWanted => 0
  | _ => 2

/-- The error in words. -/
def UsageError.message : UsageError → String
  | helpWanted | nothingSaid => "help"
  | versionWanted => "version"
  | missingCommand => "a command is missing"
  | unknownCommand name => s!"unknown command '{name}'"
  | unknownArgument argument => s!"unexpected argument '{argument}'"
  | repeated parameter => s!"'{parameter}' is given twice"
  | unexpectedValue parameter => s!"'{parameter}' takes no value"
  | missingValue parameter => s!"'{parameter}' needs a value"
  | unlistedValue parameter value => s!"'{value}' is no possible value of '{parameter}'"
  | malformedValue parameter value reason =>
    s!"invalid value '{value}' for '{parameter}': {reason}"
  | missingParameter parameter => s!"'{parameter}' is required"

/-- What the value of a parameter has to be. -/
inductive ValueForm
  /-- Any text. -/
  | text
  /-- A text that is not empty. -/
  | path
  /-- One of the words. -/
  | oneOf (words : List String)
  /-- A text that is read successfully; of any other it is said what is wrong about it. -/
  | readBy (fault? : String → Option String)

/-- The error of a value that has not the form. -/
def ValueForm.error? (form : ValueForm) (parameter value : String) : Option UsageError :=
  match form with
  | text => none
  | path => if value.isEmpty then some (.missingValue parameter) else none
  | oneOf words =>
    if value.isEmpty then some (.missingValue parameter)
    else if words.contains value then none
    else some (.unlistedValue parameter value)
  | readBy fault? => (fault? value).map (.malformedValue parameter value)

/-- How a parameter is used. -/
inductive Usage
  /-- Asks for help. -/
  | help
  /-- Asks for the version. -/
  | version
  /-- May be given any number of times, without a value. -/
  | counted
  /-- May be given once, without a value. -/
  | flag
  /-- May be given once, with a value. -/
  | single (form : ValueForm)
  /-- May be given any number of times, with a value or with several between commas. -/
  | many (form : ValueForm) (commas : Bool)

/-- An option or a positional parameter. -/
structure Parameter where
  /-- Its name: of an option the one after two hyphens. -/
  name : String
  /-- The letter of an option. -/
  letter : Option Char := none
  /-- How it is used. -/
  usage : Usage
  /-- It has to be given. -/
  isRequired : Bool := false

/-- The parameter has values. -/
def Parameter.takesValue (parameter : Parameter) : Bool :=
  match parameter.usage with
  | .single _ | .many _ _ => true
  | .help | .version | .counted | .flag => false

/-- The parameter has any number of values. -/
def Parameter.takesMany (parameter : Parameter) : Bool :=
  match parameter.usage with
  | .many _ _ => true
  | _ => false

/-- A command with its parameters and its own commands. -/
structure Grammar where
  /-- Name of the command. -/
  name : String
  /-- Its options. -/
  options : List Parameter
  /-- Its positional parameter. -/
  argument : Option Parameter := none
  /-- Its own commands; where there are any, one has to follow. -/
  commands : List Grammar := []

namespace Grammar

/-- The command with the name. -/
def command? (grammar : Grammar) (name : String) : Option Grammar :=
  grammar.commands.find? (·.name == name)

/-- The name of the command that shows help, which stands beside commands. -/
def helpName : String := "help"

/-- The name of a command, or of the one that shows help. -/
def isCommandName (grammar : Grammar) (name : String) : Bool :=
  !grammar.commands.isEmpty && (name == helpName || (grammar.command? name).isSome)

/-- The option with the name. -/
def option? (grammar : Grammar) (name : String) : Option Parameter :=
  grammar.options.find? (·.name == name)

/-- The option with the letter. -/
def letterOption? (grammar : Grammar) (letter : Char) : Option Parameter :=
  grammar.options.find? (·.letter == some letter)

/-- All parameters. -/
def parameters (grammar : Grammar) : List Parameter := grammar.options ++ grammar.argument.toList

end Grammar

/-! ### Help -/

/-- How an option is written. -/
def Parameter.written (parameter : Parameter) : String :=
  let letter := match parameter.letter with
    | some letter => s!"-{letter}, "
    | none => "    "
  let value := if parameter.takesValue then s!" <{upper parameter.name}>" else ""
  s!"  {letter}--{parameter.name}{value}"

namespace Grammar

/-- The first line of the help on a command. -/
def usageLine (grammar : Grammar) : String :=
  let argument := match grammar.argument with
    | some parameter => s!" [{upper parameter.name}]"
    | none => ""
  let command := if grammar.commands.isEmpty then "" else " <COMMAND>"
  s!"Usage: {grammar.name} [OPTIONS]{argument}{command}"

/-- The commands and options of a command. -/
def help (grammar : Grammar) : String :=
  let commands := grammar.commands.map fun command => "  " ++ command.name
  unlines
    ([grammar.usageLine, ""] ++
      (if commands.isEmpty then [] else ["Commands:"] ++ commands ++ [""]) ++
      ["Options:"] ++ grammar.options.map Parameter.written)

end Grammar

end RpgLint.Cli
