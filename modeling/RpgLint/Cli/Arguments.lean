import RpgLint.Cli.Grammar

/-!
# Reading command lines

Arguments are read from left to right.  An option whose value is the next argument, and a positional
parameter, wait for their values; they are taken up when the next parameter comes, or at the end.
The command that follows is read before what waits is taken up, so that its errors come first.

## Main definitions

* `Scan` — what is known after some arguments of a command.
* `Scan.take` — a parameter with its values is taken up.
* `Scan.step` — one more argument.
* `Grammar.parse` — the parameters that are given, and the command they belong to.
-/

namespace RpgLint.Cli

/-- Values that are given, with the names of their parameters. -/
abbrev Given := List (String × List String)

/-- A parameter that waits for its values. -/
structure Waiting where
  /-- The parameter. -/
  parameter : Parameter
  /-- Values so far. -/
  values : List String

/-- What the next argument may belong to. -/
inductive Expecting
  /-- A command may follow. -/
  | anything
  /-- The value of the option that waits. -/
  | value
  /-- More values of the positional parameter that waits. -/
  | arguments
  deriving DecidableEq, Repr

/-- What is known after some arguments of a command. -/
structure Scan where
  /-- What is given. -/
  given : Given := []
  /-- What waits. -/
  waiting : Option Waiting := none
  /-- What may follow. -/
  expecting : Expecting := .anything
  /-- Two hyphens have been read: only values follow. -/
  trailing : Bool := false
  /-- The only value of the positional parameter has been read. -/
  isFull : Bool := false

namespace Scan

/-- The parameter is given. -/
def has (scan : Scan) (name : String) : Bool := scan.given.any (·.1 == name)

/-- The scan with more values of a parameter. -/
def add (scan : Scan) (parameter : Parameter) (values : List String) : Scan :=
  { scan with given := scan.given ++ [(parameter.name, values)] }

/-- The values, unless one of them has not the form. -/
def checkValues (parameter : Parameter) (form : ValueForm) (values : List String) :
    Except UsageError Unit :=
  values.forM fun value =>
    match form.error? parameter.name value with
    | some error => .error error
    | none => .ok ()

/-- The scan with a parameter and its values, where nothing waits. -/
def record (scan : Scan) (parameter : Parameter) (values : List String) :
    Except UsageError Scan := do
  match parameter.usage with
  | .help => throw .helpWanted
  | .version => throw .versionWanted
  | .counted => return scan.add parameter []
  | .flag =>
    if scan.has parameter.name then throw (.repeated parameter.name)
    return scan.add parameter []
  | .single form =>
    if values.isEmpty then throw (.missingValue parameter.name)
    if scan.has parameter.name then throw (.repeated parameter.name)
    checkValues parameter form values
    return scan.add parameter values
  | .many form commas =>
    if values.isEmpty then throw (.missingValue parameter.name)
    let values := if commas then values.flatMap (splitText ',') else values
    checkValues parameter form values
    return scan.add parameter values

/-- The scan with what waits taken up. -/
def settle (scan : Scan) : Except UsageError Scan :=
  match scan.waiting with
  | none => .ok scan
  | some waiting => { scan with waiting := none }.record waiting.parameter waiting.values

/-- The scan with a parameter and its values taken up, after what waits. -/
def take (scan : Scan) (parameter : Parameter) (values : List String) : Except UsageError Scan := do
  let scan ← (← scan.settle).record parameter values
  return { scan with expecting := .anything }

/-- The scan with an option whose value follows. -/
def await (scan : Scan) (parameter : Parameter) : Except UsageError Scan := do
  return { ← scan.settle with waiting := some ⟨parameter, []⟩, expecting := .value }

/-- The scan after an option written by name, with the value after its equals sign. -/
def longOption (grammar : Grammar) (scan : Scan) (name : String) (value : Option String) :
    Except UsageError Scan :=
  match grammar.option? name, value with
  | none, _ => .error (.unknownArgument name)
  | some parameter, none =>
    if parameter.takesValue then scan.await parameter else scan.take parameter []
  | some parameter, some value =>
    if parameter.takesValue then scan.take parameter [value]
    else .error (.unexpectedValue name)

/-- The scan after options written as letters.  What follows the letter of an option with a value is
the value, after an equals sign if there is one. -/
def shortOptions (grammar : Grammar) (scan : Scan) : List Char → Except UsageError Scan
  | [] => .ok scan
  | letter :: rest =>
    match grammar.letterOption? letter with
    | none => .error (.unknownArgument (String.ofList [letter]))
    | some parameter =>
      if !parameter.takesValue then
        match scan.take parameter [] with
        | .ok scan => shortOptions grammar scan rest
        | .error error => .error error
      else match rest with
        | [] => scan.await parameter
        | '=' :: value => scan.take parameter [String.ofList value]
        | value => scan.take parameter [String.ofList value]

/-- The error of an argument that no parameter takes. -/
def strayError (grammar : Grammar) (scan : Scan) (argument : String) : UsageError :=
  if grammar.commands.isEmpty || (scan.trailing && grammar.isCommandName argument) then
    .unknownArgument argument
  else .unknownCommand argument

/-- The scan after a value of the positional parameter. -/
def positional (grammar : Grammar) (scan : Scan) (argument : String) : Except UsageError Scan :=
  match grammar.argument, scan.isFull with
  | some parameter, false =>
    match scan.waiting, parameter.takesMany with
    | some waiting, true =>
      if waiting.parameter.name = parameter.name then
        .ok { scan with
              waiting := some ⟨parameter, waiting.values ++ [argument]⟩, expecting := .arguments }
      else scan.settle.map fun scan =>
        { scan with waiting := some ⟨parameter, [argument]⟩, expecting := .arguments }
    | _, many => scan.settle.map fun scan =>
      { scan with
        waiting := some ⟨parameter, [argument]⟩
        expecting := if many then .arguments else .anything
        isFull := !many }
  | _, _ => .error (scan.strayError grammar argument)

/-- The scan after the value of the option that waits. -/
def giveValue (scan : Scan) (argument : String) : Scan :=
  { scan with
    waiting :=
      scan.waiting.map fun waiting => { waiting with values := waiting.values ++ [argument] }
    expecting := .anything }

/-- The scan after one more argument that begins no command. -/
def step (grammar : Grammar) (scan : Scan) (argument : String) : Except UsageError Scan :=
  if scan.trailing then scan.positional grammar argument
  else match argument.toList with
    -- two hyphens alone: only values follow
    | ['-', '-'] => .ok { scan with trailing := true }
    | '-' :: '-' :: option =>
      let name := option.takeWhile (· != '=')
      let value := match option.drop name.length with
        | [] => none
        | _ :: value => some (String.ofList value)
      scan.longOption grammar (String.ofList name) value
    | '-' :: letter :: letters => scan.shortOptions grammar (letter :: letters)
    -- a hyphen alone is a value
    | _ =>
      if scan.expecting = .value then .ok (scan.giveValue argument)
      else scan.positional grammar argument

/-- The scan at the end, where a command has followed or not. -/
def finish (grammar : Grammar) (scan : Scan) (hasCommand : Bool) : Except UsageError Given := do
  let scan ← scan.settle
  if !hasCommand && !grammar.commands.isEmpty then
    throw (if scan.given.isEmpty then .nothingSaid else .missingCommand)
  match grammar.parameters.find? fun parameter =>
    parameter.isRequired && !scan.has parameter.name with
  | some parameter => throw (.missingParameter parameter.name)
  | none => return scan.given

end Scan

/-- A command line: the commands one under another, the innermost last, and what is given to
each. -/
structure Arguments where
  /-- Names of the commands. -/
  commands : List String
  /-- What is given to each, the outermost first. -/
  given : List Given

namespace Arguments

/-- The values of a parameter, given to the innermost command that has it. -/
def values? (arguments : Arguments) (name : String) : Option (List String) :=
  (arguments.given.reverse.find? fun given => given.any (·.1 == name)).map fun given =>
    (given.filter (·.1 == name)).flatMap Prod.snd

/-- The parameter is given. -/
def has (arguments : Arguments) (name : String) : Bool := (arguments.values? name).isSome

/-- The last value of a parameter. -/
def value? (arguments : Arguments) (name : String) : Option String :=
  (arguments.values? name).bind List.getLast?

/-- All values of a parameter. -/
def values (arguments : Arguments) (name : String) : List String :=
  (arguments.values? name).getD []

end Arguments

namespace Grammar

/-- What asking for help on the named commands leads to. -/
def helpOn (grammar : Grammar) : List String → UsageError
  | [] => .helpWanted
  | name :: names =>
    match grammar.command? name with
    | some command => helpOn command names
    | none =>
      if grammar.isCommandName name then
        match names with
        | [] => .helpWanted
        | name :: _ => .unknownCommand name
      else .unknownCommand name

/-- Reads the arguments of a command up to the name of one of its own commands; that name comes with
the arguments after it. -/
def scanArguments (grammar : Grammar) (scan : Scan) :
    List String → Except UsageError (Scan × Option (String × List String))
  | [] => .ok (scan, none)
  | argument :: rest =>
    if !scan.trailing && scan.expecting = .anything && grammar.isCommandName argument then
      .ok (scan, some (argument, rest))
    else match scan.step grammar argument with
      | .ok scan => scanArguments grammar scan rest
      | .error error => .error error

/-- Reads the arguments of a command and of those under it.  Each command takes an argument, so that
one more than their number is fuel enough. -/
def parseWith : Nat → Grammar → List String → Except UsageError Arguments
  | 0, _, _ => .error .missingCommand
  | fuel + 1, grammar, arguments => do
    let (scan, next) ← grammar.scanArguments {} arguments
    match next with
    | none =>
      let given ← scan.finish grammar false
      return ⟨[], [given]⟩
    | some (name, rest) =>
      match grammar.command? name with
      | none => throw (grammar.helpOn rest)
      | some command =>
        -- errors of the command below come before those of what still waits here
        let below ← parseWith fuel command rest
        let given ← scan.finish grammar true
        return ⟨name :: below.commands, given :: below.given⟩

/-- The command line that the arguments write. -/
def parse (grammar : Grammar) (arguments : List String) : Except UsageError Arguments :=
  parseWith (arguments.length + 1) grammar arguments

end Grammar

end RpgLint.Cli
