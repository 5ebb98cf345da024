import CallAtlas.Extract.Reader
import CallAtlas.Graph.Stats
import CallAtlas.Json.Printer
import CallAtlas.Text.Column

/-! # Reports

    Datasets and statistics as text: compact, as a table, or as JSON.
-/

namespace CallAtlas.Report

open CallAtlas.Extract
open CallAtlas.Graph
open CallAtlas.Text

inductive Format where
  | compact
  | table
  | json
  deriving DecidableEq, Inhabited

namespace Format

def words : List (String × Format) := [("compact", .compact), ("table", .table), ("json", .json)]

/-- The word for a format. -/
def word : Format → String
  | compact => "compact"
  | table => "table"
  | json => "json"

end Format

/-- Sets a text in bold for a terminal, if colour is wanted. -/
def bold (color : Bool) (text : String) : String :=
  if color then "\x1b[1m" ++ text ++ "\x1b[0m" else text

/-! ## Section 1: Datasets -/

def datasetCompact (d : Dataset) : String :=
  String.join (d.functions.map fun name => "def " ++ name ++ "\n")
    ++ String.join (d.calls.map fun e => "call " ++ e.caller ++ " -> " ++ e.callee ++ "\n")
    ++ toString d.functions.length ++ " functions, " ++ toString d.calls.length ++ " calls\n"

/-- The width of the first column: the longest name in bytes, but not less than the heading. -/
def callerWidth (d : Dataset) : Nat :=
  (d.calls.map (·.caller) ++ d.functions).foldl (fun w name => max w name.utf8ByteSize) 6

/-- One row of the table. -/
def datasetRow (d : Dataset) (width : Nat) (name : String) : String :=
  let lines := ((d.codeOf? name).map lineCount).getD 0
  let callees := d.calleesOf name
  padRight width name ++ "  " ++ padLeft 5 (toString lines) ++ "  "
    ++ (if callees.isEmpty then "-" else ", ".intercalate callees) ++ "\n"

def datasetTable (d : Dataset) (color : Bool) : String :=
  let width := callerWidth d
  bold color (padRight width "CALLER" ++ "  " ++ padLeft 5 "LINES" ++ "  CALLEES") ++ "\n"
    ++ String.ofList (List.replicate (width + 16) '-') ++ "\n"
    ++ String.join (d.functions.map (datasetRow d width))

def renderDataset (d : Dataset) (format : Format) (color : Bool) : String :=
  match format with
  | .compact => datasetCompact d
  | .table => datasetTable d color
  | .json => d.toJson.pretty ++ "\n"

/-! ## Section 2: Statistics -/

def statsCompact (s : Stats) : String :=
  "functions " ++ toString s.functions ++ " calls " ++ toString s.calls ++ " unresolved "
    ++ toString s.unresolved ++ " dangling " ++ toString s.dangling ++ "\n"
    ++ "roots " ++ " ".intercalate s.roots ++ "\n"
    ++ "leaves " ++ " ".intercalate s.leaves ++ "\n"
    ++ "recursive " ++ " ".intercalate (s.recursiveGroups.map ",".intercalate) ++ "\n"

def statsTable (s : Stats) (color : Bool) : String :=
  bold color "=== Call Graph Overview ===" ++ "\n"
    ++ "Functions:   " ++ toString s.functions ++ "\n"
    ++ "Call edges:  " ++ toString s.calls ++ "\n"
    ++ "Unresolved:  " ++ toString s.unresolved ++ "\n"
    ++ "Dangling:    " ++ toString s.dangling ++ "\n"
    ++ "\n"
    ++ bold color "--- Shape ---" ++ "\n"
    ++ "  Roots:     " ++ ", ".intercalate s.roots ++ "\n"
    ++ "  Leaves:    " ++ ", ".intercalate s.leaves ++ "\n"
    ++ "  Recursive: " ++ toString s.recursiveGroups.length ++ "\n"
    ++ String.join (s.recursiveGroups.map fun group => "    " ++ " <-> ".intercalate group ++ "\n")

def renderStats (s : Stats) (format : Format) (color : Bool) : String :=
  match format with
  | .compact => statsCompact s
  | .table => statsTable s color
  | .json => s.toJson.pretty ++ "\n"

end CallAtlas.Report
