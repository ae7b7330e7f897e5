import ProxyWatch.Cli.Grammar

/-! What a program says about its command lines. -/
namespace ProxyWatch.Cli

def padRight (width : Nat) (text : String) : String :=
  text ++ String.ofList (List.replicate (width - text.length) ' ')

def padLeft (width : Nat) (text : String) : String :=
  String.ofList (List.replicate (width - text.length) ' ') ++ text

/-- An option as it is named in a message. -/
def OptionSpec.usage (option : OptionSpec) : String :=
  "--" ++ option.long ++ (option.placeholder.map fun name => s!" <{name}>").getD ""

def OptionSpec.row (option : OptionSpec) : String × String :=
  let short := match option.short with
    | some letter => s!"-{letter}, "
    | none => "    "
  (short ++ option.usage, option.about)

/-- Rows in two columns below a title; no rows have no title. -/
def table (title : String) (rows : List (String × String)) : List String :=
  if rows.isEmpty then []
  else
    let width := ((rows.map (·.1.length)).max?).getD 0
    ["", title ++ ":"] ++ rows.map fun (left, right) => s!"  {padRight width left}  {right}"

/-- The command that says all this. -/
def helpCommand : Grammar :=
  { name := helpName, about := "Print this message or the help of the given subcommand(s)" }

namespace Grammar

def usage (grammar : Grammar) (names : List String) : String :=
  let options := if grammar.options.isEmpty then [] else ["[OPTIONS]"]
  let arguments := grammar.arguments.map fun name => s!"<{name}>"
  let command := if grammar.commands.isEmpty then [] else ["<COMMAND>"]
  "Usage: " ++ " ".intercalate (names ++ options ++ arguments ++ command)

def helpLines (grammar : Grammar) (names : List String) : List String :=
  let commands := if grammar.commands.isEmpty then [] else grammar.commands ++ [helpCommand]
  [grammar.about, "", grammar.usage names] ++
    table "Commands" (commands.map fun command => (command.name, command.about)) ++
    table "Arguments" (grammar.arguments.map fun name => (s!"<{name}>", "")) ++
    table "Options" ((grammar.options ++ [helpOption]).map OptionSpec.row)

/-- The help on itself. -/
def helpOnHelp (names : List String) : List String :=
  [helpCommand.about, "", "Usage: " ++ " ".intercalate (names ++ [helpName, "[COMMAND]..."])] ++
    table "Arguments" [("[COMMAND]...", "Print help for the subcommand(s)")]

/-- The help on the command that names lead to. -/
def helpAt (grammar : Grammar) (names : List String) : List String → List String
  | [] => grammar.helpLines names
  | name :: rest =>
    match grammar.command? name with
    | some command => command.helpAt (names ++ [name]) rest
    | none => helpOnHelp names

def usageAt (grammar : Grammar) (names : List String) : List String → String
  | [] => grammar.usage names
  | name :: rest =>
    match grammar.command? name with
    | some command => command.usageAt (names ++ [name]) rest
    | none => grammar.usage names

end Grammar

def Fault.message (program : List String) : Fault → String
  | unknownArgument text => s!"unexpected argument '{text}' found"
  | unknownCommand text => s!"unrecognized subcommand '{text}'"
  | repeated option => s!"the argument '{option.usage}' cannot be used multiple times"
  | valueMissing option => s!"a value is required for '{option.usage}' but none was supplied"
  | valueUnexpected option text =>
    s!"unexpected value '{text}' for '{option.usage}' found; no more were expected"
  | argumentsMissing placeholders =>
    "the following required arguments were not provided:" ++
      String.join (placeholders.map fun name => s!"\n  <{name}>")
  | commandMissing =>
    let name := " ".intercalate program
    s!"'{name}' requires a subcommand but one was not provided"

/-- What is written for arguments that lead to no command: help where it is asked for, or a complaint. -/
inductive Guidance where
  | help (lines : List String)
  | complaint (lines : List String)
  deriving DecidableEq, Repr

def Refusal.guidance (grammar : Grammar) : Refusal → Guidance
  | help path => .help (grammar.helpAt [grammar.name] path)
  | bare path => .complaint (grammar.helpAt [grammar.name] path)
  | fault path found =>
    .complaint ["error: " ++ found.message (grammar.name :: path), "",
      grammar.usageAt [grammar.name] path, "", "For more information, try '--help'."]

end ProxyWatch.Cli
