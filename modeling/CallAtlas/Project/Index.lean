import CallAtlas.Extract.Extraction
import CallAtlas.Files.Tree
import CallAtlas.Json.Printer

/-! # Indexing a project

    The datasets of several files. A file that cannot be read, or from which nothing can be
    extracted, is reported and skipped.
-/

namespace CallAtlas.Project

open CallAtlas.Extract
open CallAtlas.Files

/-! ## Section 1: Reports -/

inductive SkipReason where
  | unreadable (fault : Fault)
  | failed (failure : Failure)
  deriving DecidableEq, Inhabited

def SkipReason.message : SkipReason → String
  | unreadable fault => "read failed: " ++ fault.message
  | failed failure => failure.message

/-- What became of one file. -/
structure FileReport where
  path : String
  outcome : Except SkipReason Dataset

instance : Inhabited FileReport := ⟨⟨"", .error default⟩⟩

/-- Reports on one file, with the events on the way. -/
def reportFile (recover : Recovery) (fs : FileSystem) (options : Extract.Options)
    (path : String) : List Event × FileReport :=
  match fs.readText path with
  | .error fault => ([], ⟨path, .error (.unreadable fault)⟩)
  | .ok source =>
    let (events, result) := tryExtract (pythonFrontend recover) options source
    (events, ⟨path, result.mapError .failed⟩)

/-- Reports on files in their order, with the events on the way. -/
def reportFiles (recover : Recovery) (fs : FileSystem) (options : Extract.Options)
    (paths : List String) : List Event × List FileReport :=
  let reports := paths.map (reportFile recover fs options)
  (reports.flatMap (·.1), reports.map (·.2))

/-! ## Section 2: Summaries -/

structure Summary where
  files : Nat
  parsed : Nat
  failed : Nat
  functions : Nat
  calls : Nat
  deriving DecidableEq, Inhabited

def Summary.add (s : Summary) (r : FileReport) : Summary :=
  match r.outcome with
  | .ok d => { s with
      files := s.files + 1
      parsed := s.parsed + 1
      functions := s.functions + d.functions.length
      calls := s.calls + d.calls.length }
  | .error _ => { s with files := s.files + 1, failed := s.failed + 1 }

def Summary.ofReports (reports : List FileReport) : Summary :=
  reports.foldl Summary.add ⟨0, 0, 0, 0, 0⟩

/-! ## Section 3: Text -/

def FileReport.toJson (r : FileReport) : Json :=
  match r.outcome with
  | .ok d => .object [("calls", .number (.natural d.calls.length)),
      ("functions", .number (.natural d.functions.length)), ("path", .string r.path)]
  | .error reason => .object [("error", .string reason.message), ("path", .string r.path)]

/-- The summary of a run that took so many seconds. -/
def Summary.toJson (s : Summary) (seconds : Nat) : Json :=
  .object [("calls", .number (.natural s.calls)), ("elapsed_secs", .number (.natural seconds)),
    ("failed", .number (.natural s.failed)), ("files", .number (.natural s.files)),
    ("functions", .number (.natural s.functions)), ("parsed", .number (.natural s.parsed))]

/-- The reports and the summary as JSON text. -/
def renderJson (reports : List FileReport) (seconds : Nat) : String :=
  Json.pretty (.object [("files", .array (reports.map FileReport.toJson)),
    ("summary", (Summary.ofReports reports).toJson seconds)]) ++ "\n"

/-- The summary in two lines. -/
def Summary.render (s : Summary) (seconds : Nat) : String :=
  "Indexed " ++ toString s.files ++ " files in " ++ toString seconds ++ "s\n"
    ++ "  " ++ toString s.functions ++ " functions, " ++ toString s.calls ++ " call edges\n"

end CallAtlas.Project
