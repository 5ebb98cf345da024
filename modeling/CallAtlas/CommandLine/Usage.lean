import CallAtlas.Export.Drawing
import CallAtlas.Report.Render

/-! # What the command line accepts

    The commands with their options, as data. Every command takes one path, the options of its
    own, and those that all commands share.
-/

namespace CallAtlas.CommandLine

open CallAtlas.Extract

/-! ## Section 1: Options -/

/-- What a value has to be. -/
inductive ValueKind where
  /-- Any text that is not empty. -/
  | path
  | text
  /-- A natural number of 64 bits. -/
  | number
  | oneOf (words : List String)
  deriving DecidableEq, Inhabited

/-- What an option does. -/
inductive Action where
  | takeValue (kind : ValueKind)
  | setFlag
  | raiseVerbosity
  | showHelp
  | showVersion
  deriving DecidableEq, Inhabited

structure OptionUsage where
  /-- Behind two hyphens. -/
  long : Option String
  /-- Behind one hyphen. -/
  short : Option Char
  action : Action
  summary : String
  deriving DecidableEq, Inhabited

/-- The name of an option. -/
def OptionUsage.name (o : OptionUsage) : String :=
  match o.long, o.short with
  | some long, _ => long
  | none, some short => short.toString
  | none, none => ""

/-- The options of the program and of all its commands. -/
def sharedOptions : List OptionUsage :=
  [⟨none, some 'v', .raiseVerbosity, "Raise log verbosity (-v info, -vv debug, -vvv trace)"⟩,
    ⟨some "help", some 'h', .showHelp, "Print help"⟩,
    ⟨some "version", some 'V', .showVersion, "Print version"⟩]

/-! ## Section 2: Commands -/

structure CommandUsage where
  word : String
  summary : String
  /-- The name of the path that the command takes. -/
  operand : String
  options : List OptionUsage
  deriving DecidableEq, Inhabited

def formatOption (words : List String) : OptionUsage :=
  ⟨some "format", none, .takeValue (.oneOf words), "Output format"⟩

def outputOption : OptionUsage :=
  ⟨some "output", some 'o', .takeValue .path, "Write to this file instead of stdout"⟩

def reportFormats : List String := Report.Format.words.map (·.1)

def commands : List CommandUsage :=
  [⟨"extract", "Extract functions, call edges and snippets from a Python file", "FILE",
      [formatOption reportFormats,
        ⟨some "duplicates", none, .takeValue (.oneOf (DuplicatePolicy.words.map (·.1))),
          "How calls are attributed when several definitions share a name"⟩]⟩,
    ⟨"graph", "Emit the positioned presentation graph as JSON", "FILE",
      [⟨some "keep-dangling", none, .setFlag, "Keep calls to undefined names as placeholder nodes"⟩,
        outputOption]⟩,
    ⟨"validate", "Check that every edge of a presentation graph references an existing node",
      "FILE", []⟩,
    ⟨"export", "Export the call graph as Graphviz DOT or a Mermaid flowchart", "FILE",
      [formatOption (Export.Format.words.map (·.1)),
        ⟨some "focus", none, .takeValue .text,
          "Only export functions matching this regex and their neighborhood"⟩,
        ⟨some "depth", none, .takeValue .number, "Hop depth of the focus neighborhood"⟩,
        ⟨some "unresolved", none, .setFlag,
          "Include nodes for called names that are never defined"⟩,
        outputOption]⟩,
    ⟨"stats", "Call graph statistics: counts, roots, leaves, recursion", "FILE",
      [formatOption reportFormats]⟩,
    ⟨"index", "Index a project directory, extracting every Python file", "PATH",
      [⟨some "verbose", none, .setFlag, "Print each discovered file path during indexing"⟩,
        ⟨some "json", none, .setFlag, "Output results as JSON"⟩]⟩]

/-- The word that asks for help on a command. -/
def helpWord : String := "help"

def command? (word : String) : Option CommandUsage := commands.find? (·.word = word)

def CommandUsage.allOptions (c : CommandUsage) : List OptionUsage := c.options ++ sharedOptions

/-! ## Section 3: Usage errors -/

/-- Why the arguments are not a command to run. -/
inductive UsageError where
  /-- Help is asked for, on a command or on the program. -/
  | help (command : Option String)
  | version (command : Option String)
  /-- There are no arguments at all. -/
  | noArguments
  | noCommand
  | unknownCommand
  | unknownArgument
  | missingOperand
  /-- A value is missing, empty, or not one of those to choose from. -/
  | invalidValue
  /-- A value is not a number. -/
  | invalidNumber
  /-- An option is given twice. -/
  | repeatedOption
  /-- A flag is given a value. -/
  | unwantedValue
  deriving DecidableEq, Inhabited

namespace UsageError

/-- Whether this is an answer to a question rather than an error. -/
def isAnswer : UsageError → Bool
  | help _ | version _ => true
  | _ => false

def status (e : UsageError) : Nat := if e.isAnswer then 0 else 2

end UsageError

end CallAtlas.CommandLine
