import CallAtlas.Extract.Call
import CallAtlas.Extract.Duplicates
import CallAtlas.Extract.Event
import CallAtlas.Syntax.Parse

/-! # Extraction

    From the text of a source to its dataset. The definitions are collected first; then each
    is reported on in turn, its snippet and its calls; then the calls of all definitions
    become the edges. Under `lastWins` a definition that is followed by another of the same
    name adds no edges; its name and place in the dataset stay.
-/

namespace CallAtlas.Extract

open CallAtlas.Syntax
open CallAtlas.Text

/-! ## Section 1: Options and front ends -/

structure Options where
  duplicates : DuplicatePolicy
  /-- Whether `async def` counts as a definition. -/
  includeAsync : Bool
  /-- The size above which a source is refused; none to accept any size. -/
  maxSourceBytes : Option Nat
  deriving DecidableEq, Inhabited

namespace Options

def defaultMaxSourceBytes : Nat := 4194304

def default : Options := ⟨.lastWins, true, some defaultMaxSourceBytes⟩

end Options

/-- Turns a text into a syntax tree without faults. -/
abbrev Frontend := String → Except ExtractError Node

/-- What is made of a text that the grammar does not accept: a tree that shows, in damaged
    nodes, where the text leaves the grammar. -/
abbrev Recovery := String → Node

/-- A tree if it has no fault, and otherwise its first fault. -/
def faultless (tree : Node) (flagged : Bool) : Except ExtractError Node :=
  match tree.firstFault flagged with
  | some fault => .error (.syntaxFault fault)
  | none => .ok tree

/-- The front end for Python. The tree of a text that the grammar accepts is never flagged, and
    a tree from the recovery always is. -/
def pythonFrontend (recover : Recovery) : Frontend := fun source =>
  match parse source with
  | some tree => faultless tree false
  | none => faultless (recover source) true

/-- A recovery that finds nothing to keep: one damaged node for the whole text. -/
def wholeDamaged : Recovery := fun source =>
  ⟨.phrase .sourceFile, .zero, source.toList.foldl Place.after .zero, none, false, .error, []⟩

/-! ## Section 2: One definition -/

/-- What a definition contributes. -/
structure Report where
  definition : Definition
  snippet : String
  calls : DefinitionCalls
  deriving Inhabited

/-- Reports on a definition, with the events on the way. -/
def reportOn (source : String) (d : Definition) : List Event × Except Failure Report :=
  let found := Event.functionFound d.name d.line
  match d.span.slice source with
  | none =>
    ([found], .error (.error (.malformedTree (.outside d.span.startByte d.span.endByte d.name))))
  | some snippet =>
    let events := [found, .snippetExtracted d.name snippet.utf8ByteSize]
    match d.calls source with
    | .error e => (events, .error e)
    | .ok calls =>
      (events ++ calls.memberCalls.map fun (object, name) => .memberCallSkipped d.name object name,
        .ok ⟨d, snippet, calls⟩)

/-- Reports on definitions in turn, up to the first failure. -/
def reportAll (source : String) : List Definition → List Event × Except Failure (List Report)
  | [] => ([], .ok [])
  | d :: ds =>
    match reportOn source d with
    | (events, .error e) => (events, .error e)
    | (events, .ok report) =>
      let (later, result) := reportAll source ds
      (events ++ later, result.map (report :: ·))

/-! ## Section 3: The dataset -/

/-- The callees that a definition contributes. -/
def Report.contribution (r : Report) : Contribution := ⟨r.definition.name, r.calls.callees⟩

/-- Records a call and adds its edge. -/
def recordCall (caller : String) (found : Array Event × Array CallEdge) (callee : String) :
    Array Event × Array CallEdge :=
  (found.1.push (.callFound caller callee), found.2.push ⟨caller, callee⟩)

/-- The events and the edges of all slots, in order. -/
def EdgeSlots.collect (e : EdgeSlots) : Array Event × Array CallEdge :=
  e.slots.toList.foldl (fun found s => s.callees.foldl (recordCall s.name) found) (#[], #[])

/-- The events and the edges of the calls of a list of reports. -/
def callsOf (policy : DuplicatePolicy) (reports : List Report) : Array Event × Array CallEdge :=
  (EdgeSlots.ofList policy (reports.map (·.contribution))).collect

/-- The dataset of a list of reports. -/
def Dataset.ofReports (policy : DuplicatePolicy) (reports : List Report) : Dataset where
  functions := reports.foldl (fun names r => insertNew names r.definition.name) []
  calls := (callsOf policy reports).2.toList
  code := reports.foldl (fun code r => Dataset.putCode code r.definition.name r.snippet) []
  functions_nodup := nodup_foldl_insertNew _ _ .nil
  code_nodup := Dataset.nodup_foldl_putCode (fun r : Report => (r.definition.name, r.snippet))
    reports [] .nil

/-! ## Section 4: Extraction -/

/-- Extracts from a tree that the front end has made of the source. -/
def extractTree (options : Options) (source : String) (tree : Node) :
    List Event × Except Failure Dataset :=
  match definitions source options.includeAsync tree with
  | .error e => ([], .error e)
  | .ok ds =>
    match reportAll source ds with
    | (events, .error e) => (events, .error e)
    | (events, .ok reports) =>
      let d := Dataset.ofReports options.duplicates reports
      (events ++ (callsOf options.duplicates reports).1.toList
        ++ [.extracted d.functions.length d.calls.length], .ok d)

/-- The size by which a source exceeds what the options allow. -/
def oversize? (options : Options) (source : String) : Option (Nat × Nat) :=
  match options.maxSourceBytes with
  | some limit => if limit < source.utf8ByteSize then some (source.utf8ByteSize, limit) else none
  | none => none

/-- Extracts a dataset, with the events on the way. -/
def tryExtract (frontend : Frontend) (options : Options) (source : String) :
    List Event × Except Failure Dataset :=
  match oversize? options source with
  | some (size, limit) => ([], .error (.error (.tooLarge size limit)))
  | none =>
    match frontend source with
    | .error e => ([], .error (.error e))
    | .ok tree => extractTree options source tree

/-- How an extraction that recovers from errors ends. -/
inductive Outcome where
  | dataset (d : Dataset)
  | abort
  deriving Inhabited

/-- Extracts a dataset, the empty one if there is an error, which becomes the last event. -/
def extract (frontend : Frontend) (options : Options) (source : String) : List Event × Outcome :=
  match tryExtract frontend options source with
  | (events, .ok d) => (events, .dataset d)
  | (events, .error (.error e)) =>
    (events ++ [.extractionFailed e.kind e.message], .dataset .empty)
  | (events, .error .abort) => (events, .abort)

end CallAtlas.Extract
