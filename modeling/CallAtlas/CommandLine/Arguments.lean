import CallAtlas.CommandLine.Usage

/-! # Reading arguments

    Arguments are read from left to right. The value of an option is attached to it or follows
    as the next argument; in the second case, and likewise for the path of a command, it is
    looked at only when the next option comes or the arguments end, so that an argument that is
    not known at all goes before a value that is not valid.
-/

namespace CallAtlas.CommandLine

/-! ## Section 1: Values -/

/-- A natural number of 64 bits in decimal digits, with an optional plus sign. -/
def number? (text : String) : Option Nat :=
  let digits := match text.toList with
    | '+' :: rest => rest
    | cs => cs
  if digits.isEmpty || !digits.all Char.isDigit then none
  else
    let n := digits.foldl (fun n c => 10 * n + (c.toNat - '0'.toNat)) 0
    if n < 0x10000000000000000 then some n else none

/-- What is wrong with a value, if anything. -/
def ValueKind.fault? (kind : ValueKind) (value : String) : Option UsageError :=
  match kind with
  | path => if value = "" then some .invalidValue else none
  | text => none
  | number => if (number? value).isNone then some .invalidNumber else none
  | oneOf words => if words.contains value then none else some .invalidValue

/-! ## Section 2: What is read so far -/

/-- What a value is for. -/
inductive Slot where
  | operand
  | option (name : String) (kind : ValueKind)
  deriving DecidableEq, Inhabited

/-- The name that a value is stored under. The path of a command has none. -/
def Slot.name : Slot → String
  | operand => ""
  | option name _ => name

def Slot.kind : Slot → ValueKind
  | operand => .path
  | option _ kind => kind

structure Arguments where
  /-- The values and flags, by name. -/
  given : List (String × String)
  /-- How often more detail is asked for. -/
  verbosity : Nat
  /-- A value not yet looked at, or an option that waits for one. -/
  pending : Option (Slot × Option String)
  deriving DecidableEq, Inhabited

namespace Arguments

def initial : Arguments := ⟨[], 0, none⟩

def value? (a : Arguments) (name : String) : Option String := a.given.lookup name

def isGiven (a : Arguments) (name : String) : Bool := (a.value? name).isSome

/-- The option that waits for its value. -/
def awaiting? (a : Arguments) : Option Slot :=
  match a.pending with
  | some (slot, none) => some slot
  | _ => none

/-- Stores a value, unless there is one of that name or it is not valid. -/
def store (a : Arguments) (slot : Slot) (value : String) : Except UsageError Arguments :=
  if a.isGiven slot.name then .error .repeatedOption
  else
    match slot.kind.fault? value with
    | some e => .error e
    | none => .ok { a with given := a.given ++ [(slot.name, value)] }

/-- Looks at the value that is pending. -/
def settle (a : Arguments) : Except UsageError Arguments :=
  match a.pending with
  | none => .ok a
  | some (_, none) => .error .invalidValue
  | some (slot, some value) => { a with pending := none }.store slot value

/-- Verbosity does not rise above this. -/
def maxVerbosity : Nat := 255

/-! ## Section 3: Options -/

/-- Applies an option that takes no value. -/
def apply (a : Arguments) (command : Option String) (o : OptionUsage) :
    Except UsageError Arguments := do
  let a ← a.settle
  match o.action with
  | .setFlag =>
    if a.isGiven o.name then .error .repeatedOption
    else return { a with given := a.given ++ [(o.name, "")] }
  | .raiseVerbosity => return { a with verbosity := min maxVerbosity (a.verbosity + 1) }
  | .showHelp => .error (.help command)
  | .showVersion => .error (.version command)
  | .takeValue kind => return { a with pending := some (.option o.name kind, none) }

/-- Applies an option to a value that is attached to it. -/
def applyTo (a : Arguments) (o : OptionUsage) (value : String) : Except UsageError Arguments := do
  match o.action with
  | .takeValue kind => (← a.settle).store (.option o.name kind) value
  | _ => .error .unwantedValue

/-- Reads what stands behind two hyphens. -/
def readLong (options : List OptionUsage) (command : Option String) (a : Arguments)
    (body : List Char) : Except UsageError Arguments :=
  let name := String.ofList (body.takeWhile (· ≠ '='))
  match options.find? (·.long = some name) with
  | none => .error .unknownArgument
  | some o =>
    match body.dropWhile (· ≠ '=') with
    | _ :: value => a.applyTo o (String.ofList value)
    | [] => a.apply command o

/-- Reads what stands behind one hyphen: letters of options. If one of them takes a value, the
    rest is that value. -/
def readShort (options : List OptionUsage) (command : Option String) :
    Arguments → List Char → Except UsageError Arguments
  | a, [] => .ok a
  | a, c :: rest =>
    match options.find? (·.short = some c) with
    | none => .error .unknownArgument
    | some o =>
      match o.action, rest with
      | .takeValue _, '=' :: value => a.applyTo o (String.ofList value)
      | .takeValue _, _ :: _ => a.applyTo o (String.ofList rest)
      | _, _ =>
        match a.apply command o with
        | .ok a => readShort options command a rest
        | .error e => .error e

/-! ## Section 4: The arguments of a command -/

/-- Takes an argument as the path of the command. -/
def readOperand (a : Arguments) (arg : String) : Except UsageError Arguments :=
  if a.isGiven Slot.operand.name || a.pending.any (·.1 = .operand) then .error .unknownArgument
  else a.settle.map fun a => { a with pending := some (.operand, some arg) }

/-- Reads the arguments of a command. Behind `--` there are no options. -/
def read (options : List OptionUsage) (command : Option String) :
    Bool → Arguments → List String → Except UsageError Arguments
  | _, a, [] => a.settle
  | true, a, arg :: rest =>
    match a.readOperand arg with
    | .ok a => read options command true a rest
    | .error e => .error e
  | false, a, arg :: rest =>
    let next := match arg.toList with
      | ['-', '-'] => none
      | '-' :: '-' :: body => some (a.readLong options command body)
      | '-' :: c :: body => some (a.readShort options command (c :: body))
      | _ => some (match a.awaiting? with
        | some slot => .ok { a with pending := some (slot, some arg) }
        | none => a.readOperand arg)
    match next with
    | none => read options command true a rest
    | some (.ok a) => read options command false a rest
    | some (.error e) => .error e

end Arguments

end CallAtlas.CommandLine
