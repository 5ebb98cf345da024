import CallAtlas.Json.Value

/-! # Records in JSON

    How a value with named parts is read. It is written as an object, whose other fields do
    not matter, or as an array that lists the parts in order and may stop early.
-/

namespace CallAtlas.Json

/-- The parts of a record with these names, each if it is there. -/
def parts? (names : List String) : Json → Option (List (Option Json))
  | object fields => some (names.map fun name => fields.lookup name)
  | array items =>
    if names.length < items.length then none
    else some (items.map some ++ List.replicate (names.length - items.length) none)
  | _ => none

/-- Reads a part that must be there. -/
def required {α : Type} (read : Json → Option α) (part : Option Json) : Option α :=
  match part with
  | some value => read value
  | none => none

/-- Reads a part that has a default. -/
def orDefault {α : Type} (default : α) (read : Json → Option α) (part : Option Json) : Option α :=
  match part with
  | some value => read value
  | none => some default

/-- Reads a value that may be null. -/
def nullable {α : Type} (read : Json → Option α) : Json → Option (Option α)
  | null => some none
  | value => (read value).map some

/-- Reads a list of values. -/
def list? {α : Type} (read : Json → Option α) : Json → Option (List α)
  | array items => items.mapM read
  | _ => none

/-- Reads one of several words: the word itself, or an object that has it as its only field
    with the value null. -/
def choice? {α : Type} (choices : List (String × α)) : Json → Option α
  | string word => choices.lookup word
  | object [(word, null)] => choices.lookup word
  | _ => none

end CallAtlas.Json
