import CallAtlas.CommandLine.Command

/-! # Help

    The texts that answer questions about the program, and those of usage errors.
-/

namespace CallAtlas.CommandLine

/-- The name of the program. -/
def programName : String := "code-flow"

def programVersion : String := "0.3.0"

/-! ## Section 1: Options and commands -/

def OptionUsage.heading (o : OptionUsage) : String :=
  let value := match o.action with
    | .takeValue (.oneOf words) => " <" ++ "|".intercalate words ++ ">"
    | .takeValue _ => " <" ++ o.name.toUpper ++ ">"
    | _ => ""
  let short := match o.short with
    | some c => "-" ++ c.toString
    | none => "   "
  let long := match o.long with
    | some name => (if o.short.isSome then ", " else " ") ++ "--" ++ name
    | none => ""
  short ++ long ++ value

def OptionUsage.help (o : OptionUsage) : String :=
  "  " ++ o.heading ++ "\n          " ++ o.summary ++ "\n"

def CommandUsage.help (c : CommandUsage) : String :=
  c.summary ++ "\n\nUsage: " ++ programName ++ " " ++ c.word ++ " [OPTIONS] <" ++ c.operand
    ++ ">\n\nOptions:\n" ++ String.join (c.allOptions.map (·.help))

def programHelp : String :=
  "Usage: " ++ programName ++ " [OPTIONS] <COMMAND>\n\nCommands:\n"
    ++ String.join (commands.map fun c => "  " ++ c.word ++ "\n          " ++ c.summary ++ "\n")
    ++ "\nOptions:\n" ++ String.join (sharedOptions.map (·.help))

/-! ## Section 2: Usage errors -/

namespace UsageError

def reason : UsageError → String
  | noCommand => "a command is required"
  | unknownCommand => "there is no such command"
  | unknownArgument => "an argument is not expected"
  | missingOperand => "a required argument is missing"
  | invalidValue => "the value of an option is missing or not valid"
  | invalidNumber => "the value of an option is not a number"
  | repeatedOption => "an option is given more than once"
  | unwantedValue => "a flag takes no value"
  | help _ | version _ | noArguments => ""

/-- What is shown in place of running a command. -/
def text : UsageError → String
  | help command =>
    match command.bind command? with
    | some c => c.help
    | none => programHelp
  | version command =>
    programName ++ (match command with
      | some word => "-" ++ word
      | none => "") ++ " " ++ programVersion ++ "\n"
  | noArguments => programHelp
  | e => "error: " ++ e.reason ++ "\n\nFor more information, try '--help'.\n"

end UsageError

end CallAtlas.CommandLine
