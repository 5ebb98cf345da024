/-! # TOML values -/

namespace CallAtlas

inductive Toml where
  | string (s : String)
  | integer (n : Int)
  | float (x : Float)
  | bool (b : Bool)
  /-- A date, a time, or both. -/
  | moment
  | array (items : List Toml)
  | table (fields : List (String × Toml))
  deriving Inhabited

namespace Toml

/-! ## Reading values of a kind -/

def string? : Toml → Option String
  | string s => some s
  | _ => none

def bool? : Toml → Option Bool
  | bool b => some b
  | _ => none

def natural? : Toml → Option Nat
  | integer (.ofNat n) => some n
  | _ => none

/-- Any number, as a double. -/
def float? : Toml → Option Float
  | integer (.ofNat n) => some n.toFloat
  | integer (.negSucc n) => some (-(n + 1).toFloat)
  | float x => some x
  | _ => none

/-- The items of an array, all of them of a kind. -/
def list? {α : Type} (read : Toml → Option α) : Toml → Option (List α)
  | array items => items.mapM read
  | _ => none

/-- One of several words: the word itself, or a table that has it as its only key, with an
    empty table or an empty array. -/
def choice? {α : Type} (choices : List (String × α)) : Toml → Option α
  | string word => choices.lookup word
  | table [(word, table [])] => choices.lookup word
  | table [(word, array [])] => choices.lookup word
  | _ => none

/-- The parts of a record with these names, each if it is there. A record is written as a
    table, or as an array that lists the parts in order; a date or a time has none of them. -/
def parts? (names : List String) : Toml → Option (List (Option Toml))
  | table fields => some (names.map fun name => fields.lookup name)
  | array items =>
    let given := items.take names.length
    some (given.map some ++ List.replicate (names.length - given.length) none)
  | moment => some (names.map fun _ => none)
  | _ => none

/-- Reads a part that has a default. -/
def orDefault {α : Type} (default : α) (read : Toml → Option α) (part : Option Toml) : Option α :=
  match part with
  | some value => read value
  | none => some default

end Toml

end CallAtlas
