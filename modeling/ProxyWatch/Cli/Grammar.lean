/-! Command lines: what a program understands, and how its arguments are read.

Arguments are read from the first to the last, and the first that is wrong or asks for help ends the
reading. -/
namespace ProxyWatch.Cli

/-- An option with a placeholder takes a value. -/
structure OptionSpec where
  short : Option Char := none
  long : String
  placeholder : Option String := none
  mayBeEmpty : Bool := true
  about : String
  deriving DecidableEq, Repr

/-- A command with its options, the placeholders of its arguments, and the commands below it. -/
structure Grammar where
  name : String
  about : String
  options : List OptionSpec := []
  arguments : List String := []
  commands : List Grammar := []

/-- What has been read: the names of the commands, outermost first, and what each was given. -/
structure Reading where
  path : List String := []
  options : List (String × String) := []
  arguments : List String := []
  deriving DecidableEq, Repr

def Reading.value? (reading : Reading) (long : String) : Option String :=
  (reading.options.find? (·.1 == long)).map (·.2)

inductive Fault where
  | unknownArgument (text : String)
  | unknownCommand (text : String)
  | repeated (option : OptionSpec)
  | valueMissing (option : OptionSpec)
  | valueUnexpected (option : OptionSpec) (text : String)
  | argumentsMissing (placeholders : List String)
  | commandMissing
  deriving DecidableEq, Repr

/-- Why arguments do not lead to a command, and at which command that was found. Help is given where
it is asked for, and where nothing follows a command that needs one below it. -/
inductive Refusal where
  | help (path : List String)
  | bare (path : List String)
  | fault (path : List String) (fault : Fault)
  deriving DecidableEq, Repr

/-- Takes an option up, once. -/
def Reading.take (reading : Reading) (option : OptionSpec) (value : String) : Except Refusal Reading :=
  if reading.options.any (·.1 == option.long) then .error (.fault reading.path (.repeated option))
  else if value.isEmpty && !option.mayBeEmpty then
    .error (.fault reading.path (.valueMissing option))
  else .ok { reading with options := reading.options ++ [(option.long, value)] }

def helpOption : OptionSpec := { short := some 'h', long := "help", about := "Print help" }

/-- The name that asks for help wherever a command is expected. -/
def helpName : String := "help"

/-- A single dash is a value like any other. -/
def isOption (text : String) : Bool := text.startsWith "-" && text != "-"

namespace Grammar

def command? (grammar : Grammar) (name : String) : Option Grammar :=
  grammar.commands.find? (·.name == name)

/-- Whether names lead down to a command, or to the help itself. -/
def leadsTo (grammar : Grammar) : List String → Bool
  | [] => true
  | [name] => (name == helpName && !grammar.commands.isEmpty) || (grammar.command? name).isSome
  | name :: rest =>
    match grammar.command? name with
    | some command => command.leadsTo rest
    | none => false

/-- Reads options of one letter each, and says which one is still without its value. -/
def readShort (grammar : Grammar) (reading : Reading) :
    List Char → Except Refusal (Reading × Option OptionSpec)
  | [] => .ok (reading, none)
  | letter :: rest =>
    match grammar.options.find? (·.short == some letter) with
    | none =>
      if helpOption.short = some letter then .error (.help reading.path)
      else .error (.fault reading.path (.unknownArgument s!"-{letter}"))
    | some option =>
      if option.placeholder.isNone then do readShort grammar (← reading.take option "") rest
      else
        match rest with
        | [] => .ok (reading, some option)
        | '=' :: value | value => do pure (← reading.take option (String.ofList value), none)

/-- Reads an option by its name, with a value if one is attached to it. -/
def readLong (grammar : Grammar) (reading : Reading) (text : List Char) :
    Except Refusal (Reading × Option OptionSpec) :=
  let name := String.ofList (text.takeWhile (· != '='))
  let attached : Option String := match text.dropWhile (· != '=') with
    | '=' :: value => some (String.ofList value)
    | _ => none
  match (helpOption :: grammar.options).find? (·.long == name) with
  | none => .error (.fault reading.path (.unknownArgument s!"--{name}"))
  | some option =>
    match option.placeholder, attached with
    | none, some value => .error (.fault reading.path (.valueUnexpected option value))
    | none, none =>
      if option.long = helpOption.long then .error (.help reading.path)
      else do pure (← reading.take option "", none)
    | some _, some value => do pure (← reading.take option value, none)
    | some _, none => .ok (reading, some option)

/-- What a command line has come to when it ends. -/
def finish (grammar : Grammar) (reading : Reading) : Except Refusal Reading :=
  if !grammar.commands.isEmpty then
    if grammar.options.any fun option => (reading.value? option.long).isSome then
      .error (.fault reading.path .commandMissing)
    else .error (.bare reading.path)
  else if reading.arguments.length < grammar.arguments.length then
    .error (.fault reading.path (.argumentsMissing (grammar.arguments.drop reading.arguments.length)))
  else .ok reading

/-- Reads arguments. After two dashes alone, nothing is an option or a command any more. -/
def read (grammar : Grammar) (escaped : Bool) (reading : Reading) :
    List String → Except Refusal Reading
  | [] => grammar.finish reading
  | text :: rest =>
    if !escaped && text = "--" then read grammar true reading rest
    else if !escaped && isOption text then
      match
        if text.startsWith "--" then grammar.readLong reading (text.toList.drop 2)
        else grammar.readShort reading (text.toList.drop 1) with
      | .error refusal => .error refusal
      | .ok (reading, none) => read grammar false reading rest
      | .ok (reading, some option) =>
        match rest with
        | [] => .error (.fault reading.path (.valueMissing option))
        | value :: rest =>
          if isOption value then .error (.fault reading.path (.valueMissing option))
          else
            match reading.take option value with
            | .error refusal => .error refusal
            | .ok reading => read grammar false reading rest
    else if !escaped && !grammar.commands.isEmpty then
      if text = helpName then
        .error (if grammar.leadsTo rest then .help (reading.path ++ rest)
          else .fault reading.path (.unknownCommand ((rest.getLast?).getD helpName)))
      else
        match grammar.command? text with
        | none => .error (.fault reading.path (.unknownCommand text))
        | some command =>
          read command false { reading with path := reading.path ++ [text] } rest
    else if reading.arguments.length < grammar.arguments.length then
      read grammar escaped { reading with arguments := reading.arguments ++ [text] } rest
    else .error (.fault reading.path (.unknownArgument text))

def parse (grammar : Grammar) (arguments : List String) : Except Refusal Reading :=
  grammar.read false {} arguments

end Grammar
end ProxyWatch.Cli
