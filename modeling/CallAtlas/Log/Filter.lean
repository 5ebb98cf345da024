import CallAtlas.Log.Line
import CallAtlas.Text.Alphanumeric

/-! # Log filters

    Which lines are shown. A filter is a list of directives, each of which sets the level for
    the parts whose names start with its target. The directive with the longest target counts.
-/

namespace CallAtlas.Log

open CallAtlas.Text

structure Directive where
  target : String
  /-- The most detailed level shown, as a number; 0 shows nothing. -/
  detail : Nat
  deriving DecidableEq, Inhabited

abbrev Filter := List Directive

namespace Filter

/-! ## Section 1: Filtering -/

/-- Of two directives the one with the longer target, or else the later one. -/
def stronger (best : Option Directive) (d : Directive) : Option Directive :=
  match best with
  | some b => if d.target.utf8ByteSize < b.target.utf8ByteSize then some b else some d
  | none => some d

/-- Whether a line is shown. -/
def allows (f : Filter) (l : Line) : Bool :=
  match (f.filter fun d => l.part.target.startsWith d.target).foldl stronger none with
  | some d => l.level.detail ≤ d.detail
  | none => false

/-- The filter for a number of requests for more detail. -/
def ofVerbosity (n : Nat) : Filter :=
  let level : Level := match n with
    | 0 => .warn
    | 1 => .info
    | 2 => .debug
    | _ => .trace
  [⟨"code_flow", level.detail⟩]

/-! ## Section 2: Reading -/

/-- The levels by name. -/
def levelNames : List (String × Nat) :=
  [("off", 0), ("error", 1), ("warn", 2), ("info", 3), ("debug", 4), ("trace", 5)]

/-- A level by its name in any case, or by its number. -/
def detail? (text : String) : Option Nat :=
  match levelNames.lookup (String.ofList (text.toList.map Char.toLower)) with
  | some n => some n
  | none =>
    let digits := match text.toList with
      | '+' :: rest => rest
      | cs => cs
    if digits.isEmpty || !digits.all Char.isDigit then none
    else
      let n := digits.foldl (fun n c => 10 * n + (c.toNat - '0'.toNat)) 0
      if n ≤ 5 then some n else none

/-- One directive: a level, a target, or a target and its level. A target alone shows all of
    its lines. A directive for spans shows none, since lines stand in no span. -/
def directives? (text : String) : Option (List Directive) :=
  match text.toList with
  | [] => some []
  | '[' :: _ => some []
  | c :: _ =>
    if !(isAlphanumeric c || c = '-' || c = ':' || c = '_') then none
    else
      match text.splitOn "=" with
      | [word] =>
        match detail? word with
        | some n => some [⟨"", n⟩]
        | none => if word.contains '[' then some [] else some [⟨word, Level.trace.detail⟩]
      | target :: rest =>
        let level := "=".intercalate rest
        if target.contains '[' then some []
        else if level = "" then some [⟨target, Level.trace.detail⟩]
        else (detail? level).map fun n => [⟨target, n⟩]
      | [] => none

/-- The filter of a text of directives with commas between them. No directive at all shows
    errors only. -/
def ofText? (text : String) : Option Filter :=
  match (text.splitOn ",").mapM directives? with
  | none => none
  | some parts =>
    if (text.splitOn ",").all (· = "") then some [⟨"", Level.error.detail⟩] else some parts.flatten

/-- The filter of a run: what the text says if it can be read, or else by verbosity. -/
def forRun (text : Option String) (verbosity : Nat) : Filter :=
  (text.bind ofText?).getD (ofVerbosity verbosity)

end Filter

end CallAtlas.Log
