import CallAtlas.Extract.Event

/-! # Log lines

    What the program logs while it works. A line has a level, the part of the program that it
    comes from, a message and fields.
-/

namespace CallAtlas.Log

/-! ## Section 1: Levels and parts -/

inductive Level where
  | error
  | warn
  | info
  | debug
  | trace
  deriving DecidableEq, Inhabited

namespace Level

/-- How detailed a level is. -/
def detail : Level → Nat
  | error => 1
  | warn => 2
  | info => 3
  | debug => 4
  | trace => 5

def name : Level → String
  | error => "ERROR"
  | warn => "WARN"
  | info => "INFO"
  | debug => "DEBUG"
  | trace => "TRACE"

end Level

/-- The parts of the program that log. -/
inductive Part where
  | config
  | events
  | walk
  | index
  | drawing
  deriving DecidableEq, Inhabited

/-- The name by which a filter selects a part. -/
def Part.target : Part → String
  | config => "code_flow::config"
  | events => "code_flow::telemetry"
  | walk => "code_flow::walker"
  | index => "code_flow::index"
  | drawing => "code_flow::export"

/-! ## Section 2: Lines -/

structure Line where
  level : Level
  part : Part
  message : String
  fields : List (String × String)
  deriving DecidableEq, Inhabited

/-- Control characters that a terminal would act on are shown as escapes. -/
def showControl (c : Char) : String :=
  let hex := String.ofList (Nat.toDigits 16 c.toNat)
  if [0x1b, 0x7f].contains c.toNat then "\\x" ++ hex
  else if [0x07, 0x08, 0x0c].contains c.toNat then "\\x0" ++ hex
  else if 0x80 ≤ c.toNat ∧ c.toNat ≤ 0x9f then "\\u\x7b" ++ hex ++ "\x7d"
  else c.toString

def Line.text (l : Line) : String :=
  l.level.name ++ " " ++ String.join (l.message.toList.map showControl)
    ++ String.join (l.fields.map fun (key, value) => " " ++ key ++ "=" ++ value)

/-! ## Section 3: Events -/

open CallAtlas.Extract

/-- The line that an event is logged as. -/
def ofEvent : Event → Line
  | .functionFound name line =>
    ⟨.debug, .events, "found function definition", [("function", name), ("line", toString line)]⟩
  | .snippetExtracted name bytes =>
    ⟨.trace, .events, "extracted source", [("function", name), ("bytes", toString bytes)]⟩
  | .callFound caller callee =>
    ⟨.trace, .events, "found call", [("caller", caller), ("callee", callee)]⟩
  | .memberCallSkipped caller object name =>
    ⟨.trace, .events, "skipped member call " ++ object ++ "." ++ name ++ "()", [("caller", caller)]⟩
  | .extracted functions calls =>
    ⟨.info, .events, "extracted call graph",
      [("functions", toString functions), ("calls", toString calls)]⟩
  | .extractionFailed kind reason =>
    ⟨.error, .events, "error parsing code: " ++ reason, [("kind", "\"" ++ kind ++ "\"")]⟩
  | .validationFailed reason =>
    ⟨.error, .events, "graph validation failed: " ++ reason, []⟩

end CallAtlas.Log
