import CallAtlas.CommandLine.Arguments

/-! # Commands

    What the arguments of the program ask for.
-/

namespace CallAtlas.CommandLine

open CallAtlas.Extract

inductive Command where
  | extract (file : String) (format : Report.Format) (duplicates : Option DuplicatePolicy)
  | graph (file : String) (keepDangling : Bool) (output : Option String)
  | validate (file : String)
  | draw (file : String) (format : Export.Format) (focus : Option String) (depth : Nat)
      (unresolved : Bool) (output : Option String)
  | stats (file : String) (format : Report.Format)
  | index (path : String) (verbose json : Bool)
  deriving DecidableEq, Inhabited

/-- The path that a command works on. -/
def Command.operand : Command → String
  | extract file _ _ | graph file _ _ | validate file | draw file _ _ _ _ _ | stats file _ => file
  | index path _ _ => path

/-- The file that a command writes to. -/
def Command.output? : Command → Option String
  | graph _ _ output | draw _ _ _ _ _ output => output
  | _ => none

/-- Whether a command works on a folder with all that is in it. -/
def Command.isIndex : Command → Bool
  | index .. => true
  | _ => false

structure Invocation where
  verbosity : Nat
  command : Command
  deriving DecidableEq, Inhabited

/-! ## Section 1: From arguments to a command -/

/-- The choice that the value of an option stands for. -/
def choice? {α : Type} (a : Arguments) (name : String) (words : List (String × α)) : Option α :=
  (a.value? name).bind fun word => words.lookup word

def reportFormat (a : Arguments) : Report.Format :=
  (choice? a "format" Report.Format.words).getD .compact

/-- The command of a word with its arguments, which have been found valid. -/
def commandOf (word operand : String) (a : Arguments) : Command :=
  match word with
  | "extract" =>
    .extract operand (reportFormat a) (choice? a "duplicates" DuplicatePolicy.words)
  | "graph" => .graph operand (a.isGiven "keep-dangling") (a.value? "output")
  | "validate" => .validate operand
  | "export" =>
    .draw operand ((choice? a "format" Export.Format.words).getD .dot) (a.value? "focus")
      (((a.value? "depth").bind number?).getD 1) (a.isGiven "unresolved") (a.value? "output")
  | "stats" => .stats operand (reportFormat a)
  | _ => .index operand (a.isGiven "verbose") (a.isGiven "json")

/-- Reads the arguments of a command. A verbosity that is given here replaces the one before. -/
def readCommand (verbosity : Nat) (usage : CommandUsage) (args : List String) :
    Except UsageError Invocation :=
  match Arguments.initial.read usage.allOptions (some usage.word) false args with
  | .error e => .error e
  | .ok a =>
    match a.value? Slot.operand.name with
    | none => .error .missingOperand
    | some operand =>
      .ok ⟨if a.verbosity = 0 then verbosity else a.verbosity, commandOf usage.word operand a⟩

/-! ## Section 2: From the arguments of the program -/

/-- What is asked for behind the word for help. -/
def helpOn (words : List String) : UsageError :=
  match words with
  | [] => .help none
  | [word] =>
    if word = helpWord || (command? word).isSome then .help (some word) else .unknownCommand
  | _ => .unknownCommand

/-- Why arguments that end without a command cannot be run. -/
def withoutCommand (a : Arguments) : UsageError :=
  if a.verbosity = 0 then .noArguments else .noCommand

/-- Reads arguments up to the command, then those of the command. -/
def readProgram (a : Arguments) : List String → Except UsageError Invocation
  | [] => .error (withoutCommand a)
  | arg :: rest =>
    match command? arg with
    | some usage => readCommand a.verbosity usage rest
    | none =>
      if arg = helpWord then .error (helpOn rest)
      else
        let next : Except UsageError Arguments := match arg.toList with
          | ['-', '-'] => .error (if rest.isEmpty then withoutCommand a else .unknownArgument)
          | '-' :: '-' :: body => a.readLong sharedOptions none body
          | '-' :: c :: body => a.readShort sharedOptions none (c :: body)
          | _ => .error .unknownCommand
        match next with
        | .ok a => readProgram a rest
        | .error e => .error e

/-- The invocation that the arguments of the program ask for. -/
def parse (args : List String) : Except UsageError Invocation := readProgram .initial args

end CallAtlas.CommandLine
