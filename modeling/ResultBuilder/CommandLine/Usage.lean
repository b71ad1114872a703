/-!
# The arguments of the program

The program is called with a command and its arguments. Words that start with dashes are options,
some of which can be abbreviated by a letter; after two dashes all words are operands. An option or
operand is settled when the next one is met and accepted: what is unknown is reported before what is
wrong with the one that is not settled.
-/

namespace ResultBuilder.CommandLine

/-- Why arguments cannot be used. -/
inductive UsageError where
  /-- Help was asked for. -/
  | helpRequested
  /-- There is neither a command nor an option. -/
  | nothingGiven
  | missingCommand
  | unknownCommand
  | unknownArgument
  /-- A command lacks an operand. -/
  | missingOperand
  /-- An option lacks its value, or a value is empty. -/
  | missingValue
  /-- An option is given a value although it takes none. -/
  | unexpectedValue
  /-- An option is given more than once. -/
  | repeatedOption
  deriving DecidableEq, Repr

/-- The exit code for arguments that cannot be used. -/
def UsageError.exitCode : UsageError → Nat
  | .helpRequested => 0
  | _ => 2

/-- What is said about arguments that cannot be used. -/
def UsageError.text : UsageError → String
  | .helpRequested | .nothingGiven => "usage: check FILE | test PATH..."
  | .missingCommand => "a command is missing"
  | .unknownCommand => "unknown command"
  | .unknownArgument => "unknown argument"
  | .missingOperand => "a file is missing"
  | .missingValue => "a value is missing"
  | .unexpectedValue => "an option is given a value that it does not take"
  | .repeatedOption => "an option is given more than once"

/-- The names of the commands. -/
inductive CommandName where
  | check
  | test
  deriving DecidableEq, Repr

/-- The command of a name. -/
def CommandName.ofWord? : String → Option CommandName
  | "check" => some .check
  | "test" => some .test
  | _ => none

/-- The options without a value. -/
inductive Flag where
  | help
  | verbose
  | noColor
  | json
  | expand
  | rightNested
  | failEarly
  | timings
  deriving DecidableEq, Repr

/-- What an option stands for. -/
inductive Setting where
  | flag (flag : Flag)
  /-- The file with the configuration, which follows as a value. -/
  | config
  deriving DecidableEq, Repr

namespace Setting

/-- The option with a name, before the command or among its arguments. -/
def ofName? (command : Option CommandName) (name : String) : Option Setting :=
  match command, name with
  | _, "help" => some (.flag .help)
  | _, "verbose" => some (.flag .verbose)
  | _, "no-color" => some (.flag .noColor)
  | some .check, "json" => some (.flag .json)
  | some .check, "expand" => some (.flag .expand)
  | some .check, "config" => some .config
  | some .check, "right-nested" => some (.flag .rightNested)
  | some .test, "fail-early" => some (.flag .failEarly)
  | some .test, "timings" => some (.flag .timings)
  | _, _ => none

/-- The option that a letter abbreviates. -/
def ofLetter? (command : Option CommandName) (letter : Char) : Option Setting :=
  match command, letter with
  | _, 'h' => some (.flag .help)
  | _, 'v' => some (.flag .verbose)
  | some .check, 'c' => some .config
  | _, _ => none

end Setting

/-- What was met but is not settled. -/
inductive Pending where
  /-- The option for the configuration, and its value once that is met. -/
  | config (value : Option String)
  | operands (words : List String)
  deriving DecidableEq, Repr

/-- What was read of the arguments. -/
structure Reading where
  /-- The options without a value. -/
  flags : List Flag := []
  /-- The file with the configuration. -/
  config : Option String := none
  /-- The operands. -/
  operands : List String := []
  /-- What is not settled. -/
  pending : Option Pending := none
  deriving DecidableEq, Repr

namespace Reading

/-- Sets the file with the configuration. -/
def setConfig (reading : Reading) (value : String) : Except UsageError Reading :=
  if reading.config.isSome then .error .repeatedOption
  else if value.isEmpty then .error .missingValue
  else .ok { reading with config := some value }

/-- Settles what was met. -/
def settle (reading : Reading) : Except UsageError Reading :=
  let settled := { reading with pending := none }
  match reading.pending with
  | none => .ok reading
  | some (.config none) => .error .missingValue
  | some (.config (some value)) => settled.setConfig value
  | some (.operands words) =>
      if words.any (·.isEmpty) then .error .missingValue
      else .ok { settled with operands := reading.operands ++ words }

/-- Meets an option without a value. Only the wish for more detail can be repeated. -/
def meetFlag (reading : Reading) (flag : Flag) : Except UsageError Reading := do
  let reading ← reading.settle
  if flag = .help then throw .helpRequested
  if flag ≠ .verbose ∧ reading.flags.contains flag then throw .repeatedOption
  return { reading with flags := reading.flags ++ [flag] }

/-- Meets the option for the configuration, possibly with its value. -/
def meetConfig (reading : Reading) : Option String → Except UsageError Reading
  | none => do return { ← reading.settle with pending := some (.config none) }
  | some value => do (← reading.settle).setConfig value

/-- Meets an option by its name, possibly with a value after an equals sign. -/
def meetName (command : Option CommandName) (reading : Reading) (word : List Char) :
    Except UsageError Reading :=
  let name := String.ofList (word.takeWhile (· != '='))
  let value := match word.dropWhile (· != '=') with
    | [] => none
    | _ :: value => some (String.ofList value)
  match Setting.ofName? command name, value with
  | none, _ => .error .unknownArgument
  | some (.flag _), some _ => .error .unexpectedValue
  | some (.flag flag), none => reading.meetFlag flag
  | some .config, value => reading.meetConfig value

/-- Meets options by their letters. What follows the letter of an option with a value is its value,
with or without an equals sign. -/
def meetLetters (command : Option CommandName) (reading : Reading) :
    List Char → Except UsageError Reading
  | [] => .ok reading
  | letter :: rest =>
      match Setting.ofLetter? command letter with
      | none => .error .unknownArgument
      | some (.flag flag) => do (← reading.meetFlag flag).meetLetters command rest
      | some .config =>
          match rest with
          | [] => reading.meetConfig none
          | '=' :: value => reading.meetConfig (some (String.ofList value))
          | value => reading.meetConfig (some (String.ofList value))

/-- Whether an operand was met. -/
def hasOperand (reading : Reading) : Bool :=
  match reading.pending with
  | some (.operands _) => true
  | _ => !reading.operands.isEmpty

/-- Meets an operand of a command. Only tests take more than one: a second operand of a check is
refused whatever is not settled. -/
def meetOperand (command : CommandName) (reading : Reading) (word : String) :
    Except UsageError Reading :=
  match command, reading.pending with
  | .test, some (.operands words) =>
      .ok { reading with pending := some (.operands (words ++ [word])) }
  | .test, _ => do return { ← reading.settle with pending := some (.operands [word]) }
  | .check, _ =>
      if reading.hasOperand then .error .unknownArgument
      else do return { ← reading.settle with pending := some (.operands [word]) }

/-- Reads the arguments of a command. -/
def arguments (command : CommandName) (isTrailing : Bool) (reading : Reading) :
    List String → Except UsageError Reading
  | [] => reading.settle
  | word :: rest =>
      if isTrailing then do (← reading.meetOperand command word).arguments command true rest
      else
        match word.toList with
        | ['-', '-'] => reading.arguments command true rest
        | '-' :: '-' :: name => do
            (← reading.meetName (some command) name).arguments command false rest
        | '-' :: letter :: letters => do
            (← reading.meetLetters (some command) (letter :: letters)).arguments command false rest
        | _ =>
            match reading.pending with
            | some (.config none) =>
                { reading with pending := some (.config (some word)) }.arguments command false rest
            | _ => do (← reading.meetOperand command word).arguments command false rest

end Reading

/-! ### Invocations -/

/-- What is shown of a program without errors. -/
inductive Output where
  | diagnostics
  | json
  | expansions
  deriving DecidableEq, Repr

/-- The arguments for checking a file. -/
structure CheckArguments where
  /-- The file. -/
  file : String
  /-- What is shown. -/
  output : Output
  /-- The file with the configuration. -/
  config : Option String
  /-- Whether the cases of a `switch` are nested to the right. -/
  rightNested : Bool
  deriving DecidableEq, Repr

/-- The arguments for running fixtures. -/
structure TestArguments where
  /-- Files and directories. -/
  paths : List String
  /-- Whether a run ends after a fixture with problems. -/
  failEarly : Bool
  /-- Whether diagnostics are shown. -/
  verbose : Bool
  deriving DecidableEq, Repr

/-- What the program is called for. -/
inductive Invocation where
  | check (arguments : CheckArguments)
  | test (arguments : TestArguments)
  deriving DecidableEq, Repr

namespace Invocation

/-- What is called for by the arguments of a command, given the options before it. -/
def ofReading (command : CommandName) (earlier : List Flag) (reading : Reading) :
    Except UsageError Invocation :=
  match command, reading.operands with
  | _, [] => .error .missingOperand
  | .check, file :: _ =>
      let output :=
        if reading.flags.contains .json then Output.json
        else if reading.flags.contains .expand then .expansions
        else .diagnostics
      .ok (.check ⟨file, output, reading.config, reading.flags.contains .rightNested⟩)
  | .test, paths =>
      .ok (.test ⟨paths, reading.flags.contains .failEarly,
        earlier.contains .verbose || reading.flags.contains .verbose⟩)

/-- What is wrong when help is asked for as a command. -/
def helpError : List String → UsageError
  | [] => .helpRequested
  | [word] =>
      if word = "help" ∨ (CommandName.ofWord? word).isSome then .helpRequested else .unknownCommand
  | _ => .unknownCommand

/-- What is wrong with a word in place of a command. -/
def commandError (isTrailing : Bool) (word : String) : UsageError :=
  if isTrailing && (word == "help" || (CommandName.ofWord? word).isSome) then .unknownArgument
  else .unknownCommand

/-- Reads arguments from the first one on, given what was read before. -/
def ofArguments (isTrailing : Bool) (reading : Reading) : List String → Except UsageError Invocation
  | [] => .error (if reading.flags.isEmpty then .nothingGiven else .missingCommand)
  | word :: rest =>
      if isTrailing then .error (commandError true word)
      else if word = "help" then .error (helpError rest)
      else
        match CommandName.ofWord? word with
        | some command => do
            ofReading command reading.flags (← Reading.arguments command false {} rest)
        | none =>
            match word.toList with
            | ['-', '-'] => ofArguments true reading rest
            | '-' :: '-' :: name => do ofArguments false (← reading.meetName none name) rest
            | '-' :: letter :: letters => do
                ofArguments false (← reading.meetLetters none (letter :: letters)) rest
            | _ => .error (commandError false word)

/-- Reads the arguments of the program. -/
def parse (arguments : List String) : Except UsageError Invocation :=
  ofArguments false {} arguments

end Invocation

end ResultBuilder.CommandLine
