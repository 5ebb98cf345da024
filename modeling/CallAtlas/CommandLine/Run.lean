import CallAtlas.CommandLine.Help
import CallAtlas.Config.Load
import CallAtlas.Json.Reader
import CallAtlas.Log.Filter
import CallAtlas.Present.Validation
import CallAtlas.Project.Index
import CallAtlas.Project.Walk
import CallAtlas.Regex.Search

/-! # Running commands

    A run is a function of the arguments and the world: the files, standard input, the log
    filter, the kind of output and how the parser recovers from faults. It gives a status, what
    is written to standard output and standard error, and the files afterwards. No time passes
    in it.
-/

namespace CallAtlas.CommandLine

open CallAtlas.Extract
open CallAtlas.Files
open CallAtlas.Graph
open CallAtlas.Present
open CallAtlas.Project

/-! ## Section 1: Runs -/

structure World where
  files : FileSystem
  input : ByteArray
  /-- The text of the log filter, if one is set. -/
  logFilter : Option String
  /-- Whether standard output goes to a terminal. -/
  terminal : Bool
  /-- What the parser makes of a text that the grammar does not accept. -/
  recover : Recovery
  deriving Inhabited

/-- A line of standard error: from the log, or always shown. -/
inductive Note where
  | log (line : Log.Line)
  | plain (text : String)
  deriving DecidableEq, Inhabited

/-- Why a command fails. -/
inductive Failed where
  | inputUnreadable (fault : Fault)
  | fileUnreadable (file : String) (fault : Fault)
  | fileUnwritable (file : String) (fault : Fault)
  | notJson (file : String)
  | invalidFocus (pattern : String)
  | notADirectory (e : NotADirectory)
  | aborted (failure : Failure)
  /-- The verdict of a validation, not an error of the command. -/
  | invalidGraph (file : String)
  deriving DecidableEq, Inhabited

/-- What a failure is about, and its cause if that is something else. -/
def Failed.parts : Failed → String × Option String
  | inputUnreadable fault => ("failed to read stdin as UTF-8", some fault.message)
  | fileUnreadable file fault => ("failed to read " ++ file, some fault.message)
  | fileUnwritable file fault => ("failed to write " ++ file, some fault.message)
  | notJson file => (file ++ " is not valid JSON", none)
  | invalidFocus pattern => ("invalid --focus pattern `" ++ pattern ++ "`", none)
  | notADirectory e => (e.message, none)
  | aborted failure => (failure.message, none)
  | invalidGraph file => ("invalid graph: " ++ file, none)

def Failed.text (e : Failed) : String :=
  match e with
  | invalidGraph _ => e.parts.1
  | _ =>
    "Error: " ++ e.parts.1 ++ match e.parts.2 with
      | some cause => "\n\nCaused by:\n    " ++ cause
      | none => ""

/-- What a command does if it succeeds. -/
structure Done where
  output : String
  files : FileSystem
  deriving Inhabited

/-- Notes on the way to a value or a failure. -/
def Noted (α : Type) : Type := List Note × Except Failed α

namespace Noted

def fail {α : Type} (e : Failed) : Noted α := ([], .error e)

def note (notes : List Note) : Noted Unit := (notes, .ok ())

def bind {α β : Type} (x : Noted α) (f : α → Noted β) : Noted β :=
  match x with
  | (notes, .error e) => (notes, .error e)
  | (notes, .ok a) =>
    let (later, result) := f a
    (notes ++ later, result)

instance : Monad Noted where
  pure a := ([], .ok a)
  bind := bind

/-- A result, with what a failure in it means to the command. -/
def ofResult {ε α : Type} (meaning : ε → Failed) : Except ε α → Noted α
  | .ok a => pure a
  | .error e => fail (meaning e)

end Noted

/-! ## Section 2: Parts of commands -/

def logged (lines : List Log.Line) : Noted Unit := .note (lines.map .log)

def loggedEvents (events : List Event) : Noted Unit := logged (events.map Log.ofEvent)

def loadConfig (w : World) (folder : String) : Noted Config := do
  let (lines, config) := Config.load w.files folder
  logged lines
  return config

/-- The text of a file, or of standard input, which is written `-`. -/
def readInput (w : World) (file : String) : Noted String :=
  if file = "-" then .ofResult .inputUnreadable (decodeText w.input)
  else .ofResult (.fileUnreadable file) (w.files.readText file)

/-- The dataset of a source; the empty one if nothing can be extracted. -/
def datasetOf (w : World) (file : String) (options : Extract.Options) : Noted Dataset := do
  let source ← readInput w file
  let (events, outcome) := extract (pythonFrontend w.recover) options source
  loggedEvents events
  match outcome with
  | .dataset d => return d
  | .abort => .fail (.aborted .abort)

def printed (w : World) (text : String) : Noted Done := pure ⟨text, w.files⟩

/-- Writes a text to a file as it is, or to standard output with a line end. -/
def writeOutput (w : World) (text : String) (output : Option String) : Noted Done :=
  match output with
  | none => printed w (if text.endsWith "\n" then text else text ++ "\n")
  | some path => do
    let files ← .ofResult (.fileUnwritable path) (w.files.write path text.toUTF8)
    return ⟨"", files⟩

/-! ## Section 3: Commands -/

def runExtract (w : World) (file : String) (format : Report.Format)
    (duplicates : Option DuplicatePolicy) : Noted Done := do
  let config ← loadConfig w (Config.folderFor file)
  let policy := duplicates.getD config.extract.duplicates
  let d ← datasetOf w file { config.extract with duplicates := policy }
  printed w (Report.renderDataset d format w.terminal)

def runGraph (w : World) (file : String) (keepDangling : Bool) (output : Option String) :
    Noted Done := do
  let config ← loadConfig w (Config.folderFor file)
  let dangling := if keepDangling then .placeholder else config.dangling
  let d ← datasetOf w file config.extract
  let g := present { config.presentOptions with dangling := dangling } d
  writeOutput w g.toJson.pretty output

def runValidate (w : World) (file : String) : Noted Done := do
  let text ← readInput w file
  match Json.parse text with
  | none => .fail (.notJson file)
  | some value =>
    let (events, valid) := validateJson value
    loggedEvents events
    if valid then printed w "valid\n" else .fail (.invalidGraph file)

/-- What a focus selects. -/
def focusOn (focus : Option String) : Noted (Option (String → Bool)) :=
  match focus with
  | none => pure none
  | some text =>
    match Regex.Pattern.ofString? text with
    | some pattern => pure (some pattern.matches)
    | none => .fail (.invalidFocus text)

def runDraw (w : World) (file : String) (format : Export.Format) (focus : Option String)
    (depth : Nat) (unresolved : Bool) (output : Option String) : Noted Done := do
  let config ← loadConfig w (Config.folderFor file)
  let focus ← focusOn focus
  let d ← datasetOf w file config.extract
  let drawing := Export.draw (.ofDataset d) format ⟨focus, depth, unresolved⟩
  logged (drawing.warnings.map fun warning => ⟨.warn, .drawing, warning.message, []⟩)
  writeOutput w drawing.content output

def runStats (w : World) (file : String) (format : Report.Format) : Noted Done := do
  let config ← loadConfig w (Config.folderFor file)
  let d ← datasetOf w file config.extract
  printed w (Report.renderStats (.ofDataset d) format w.terminal)

/-- The note for what a walk says; paths are shown on request. -/
def walkNote? (verbose : Bool) : WalkNote → Option Note
  | .invalidPattern text =>
    some (.log ⟨.warn, .walk, "ignoring invalid exclude pattern `" ++ text ++ "`", []⟩)
  | .found path => if verbose then some (.plain path) else none

def skipLine? (r : FileReport) : Option Log.Line :=
  match r.outcome with
  | .ok _ => none
  | .error reason => some ⟨.warn, .index, "skipped: " ++ reason.message, [("path", r.path)]⟩

def runIndex (w : World) (path : String) (verbose json : Bool) : Noted Done := do
  let config ← loadConfig w path
  let found ← .ofResult .notADirectory (walkProject w.files path (config.exclude.getD []))
  .note (found.notes.filterMap (walkNote? verbose))
  let (events, reports) := reportFiles w.recover w.files config.extract found.sources
  loggedEvents events
  logged (reports.filterMap skipLine?)
  let summary := Summary.ofReports reports
  if json then printed w (renderJson reports 0)
  else
    if summary.failed ≠ 0 then
      .note [.plain ("  " ++ toString summary.failed ++ " files skipped (read or parse errors)")]
    printed w (summary.render 0)

def runCommand (w : World) : Command → Noted Done
  | .extract file format duplicates => runExtract w file format duplicates
  | .graph file keepDangling output => runGraph w file keepDangling output
  | .validate file => runValidate w file
  | .draw file format focus depth unresolved output =>
    runDraw w file format focus depth unresolved output
  | .stats file format => runStats w file format
  | .index path verbose json => runIndex w path verbose json

/-! ## Section 4: The program -/

/-- How a run ends. -/
structure Outcome where
  status : Nat
  output : String
  errors : String
  files : FileSystem
  deriving Inhabited

/-- The lines of notes that a filter lets through. -/
def noteText (filter : Log.Filter) (notes : List Note) : String :=
  String.join (notes.filterMap fun
    | .log line => if filter.allows line then some (line.text ++ "\n") else none
    | .plain text => some (text ++ "\n"))

/-- Runs the program. -/
def run (w : World) (args : List String) : Outcome :=
  match parse args with
  | .error e =>
    if e.isAnswer then ⟨e.status, e.text, "", w.files⟩ else ⟨e.status, "", e.text, w.files⟩
  | .ok invocation =>
    let filter := Log.Filter.forRun w.logFilter invocation.verbosity
    match runCommand w invocation.command with
    | (notes, .ok done) => ⟨0, done.output, noteText filter notes, done.files⟩
    | (notes, .error e) => ⟨1, "", noteText filter notes ++ e.text ++ "\n", w.files⟩

end CallAtlas.CommandLine
