/-! # Dates and times in TOML

    The forms of dates and times, and the ranges of their parts.
-/

namespace CallAtlas.Toml

/-- A number with exactly so many digits. -/
def readFixed : Nat → Nat → List Char → Option (Nat × List Char)
  | 0, value, cs => some (value, cs)
  | n + 1, value, c :: cs =>
    if c.isDigit then readFixed n (value * 10 + (c.toNat - '0'.toNat)) cs else none
  | _ + 1, _, [] => none

/-- A number of two digits within bounds. -/
def readTwo (low high : Nat) (cs : List Char) : Option (Nat × List Char) :=
  match readFixed 2 0 cs with
  | some (n, rest) => if low ≤ n && n ≤ high then some (n, rest) else none
  | none => none

/-- Passes one character. -/
def expect (c : Char) : List Char → Option (List Char)
  | d :: rest => if d = c then some rest else none
  | [] => none

def isLeapYear (year : Nat) : Bool := year % 4 = 0 && (year % 100 ≠ 0 || year % 400 = 0)

def daysIn (year month : Nat) : Nat :=
  match month with
  | 2 => if isLeapYear year then 29 else 28
  | 4 | 6 | 9 | 11 => 30
  | _ => 31

/-- A date. -/
def readDate (cs : List Char) : Option (List Char) := do
  let (year, cs) ← readFixed 4 0 cs
  let cs ← expect '-' cs
  let (month, cs) ← readTwo 1 12 cs
  let cs ← expect '-' cs
  let (day, cs) ← readTwo 1 31 cs
  if day ≤ daysIn year month then some cs else none

/-- Decimals of a second, if there are any. -/
def readSecondFraction : List Char → Option (List Char)
  | '.' :: rest =>
    let ds := rest.takeWhile Char.isDigit
    if ds.isEmpty then none else some (rest.drop ds.length)
  | cs => some cs

/-- A time of day. -/
def readTime (cs : List Char) : Option (List Char) := do
  let (_, cs) ← readTwo 0 23 cs
  let cs ← expect ':' cs
  let (_, cs) ← readTwo 0 59 cs
  let cs ← expect ':' cs
  let (_, cs) ← readTwo 0 60 cs
  readSecondFraction cs

/-- An offset from universal time, if there is one. -/
def readOffset : List Char → Option (List Char)
  | 'Z' :: rest => some rest
  | 'z' :: rest => some rest
  | c :: rest =>
    if c = '+' || c = '-' then do
      let (_, cs) ← readTwo 0 23 rest
      let cs ← expect ':' cs
      let (_, cs) ← readTwo 0 59 cs
      return cs
    else some (c :: rest)
  | [] => some []

/-- Whether a time of day starts here. -/
def startsTime (cs : List Char) : Bool :=
  match readTwo 0 23 cs with
  | some (_, ':' :: _) => true
  | _ => false

/-- What a value that starts with a digit turns out to be. -/
inductive MomentResult where
  | notMoment
  | invalid
  | moment (rest : List Char)

/-- A date with a time, a date or a time. Once a value has the first part and the mark behind
    it, it has to be complete. -/
def readMoment (cs : List Char) : MomentResult :=
  match readFixed 4 0 cs with
  | some (_, '-' :: _) =>
    match readDate cs with
    | none => .invalid
    | some rest =>
      match rest with
      | c :: behind =>
        if (c = 'T' || c = 't' || c = ' ') && startsTime behind then
          match (readTime behind).bind readOffset with
          | some rest => .moment rest
          | none => .invalid
        else .moment rest
      | [] => .moment []
  | _ =>
    if startsTime cs then
      match readTime cs with
      | some rest => .moment rest
      | none => .invalid
    else .notMoment

end CallAtlas.Toml
