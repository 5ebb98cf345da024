import CallAtlas.Extract.Dataset
import Std.Data.HashMap

/-! # Names that are defined several times

    The callees of definitions are gathered in visit order, a slot for each definition. A
    policy says what becomes of the slots of a name that is defined again. `EdgeSlots` keeps
    the slots up to date while definitions come in; `counted` says which of them are left in
    the end.
-/

namespace CallAtlas.Extract

/-- What happens to the calls of a name that is defined several times. -/
inductive DuplicatePolicy where
  /-- Only those of the last definition count. -/
  | lastWins
  /-- Those of all definitions count. -/
  | union
  deriving DecidableEq, Inhabited

/-- The callees that one definition contributes. -/
structure Contribution where
  name : String
  callees : List String
  deriving DecidableEq, Inhabited

namespace Contribution

def edges (s : Contribution) : List CallEdge := s.callees.map fun callee => ⟨s.name, callee⟩

def clear (s : Contribution) : Contribution := { s with callees := [] }

end Contribution

/-- The slots of the definitions seen so far, and which one each name was given last. -/
structure EdgeSlots where
  slots : Array Contribution
  latest : Std.HashMap String Nat

namespace EdgeSlots

def empty : EdgeSlots := ⟨#[], ∅⟩

/-- Gives a definition the next slot. Under `lastWins` the slot that its name had before is
    cleared and stays in its place. -/
def add (policy : DuplicatePolicy) (e : EdgeSlots) (s : Contribution) : EdgeSlots :=
  let slots := match policy, e.latest[s.name]? with
    | .lastWins, some i => e.slots.modify i Contribution.clear
    | _, _ => e.slots
  ⟨slots.push s, e.latest.insert s.name e.slots.size⟩

def ofList (policy : DuplicatePolicy) (slots : List Contribution) : EdgeSlots :=
  slots.foldl (add policy) empty

/-- The edges of all slots, in order. -/
def edges (e : EdgeSlots) : List CallEdge := e.slots.toList.flatMap (·.edges)

end EdgeSlots

/-- The slots that count under a policy: all of them, or those that no later slot of the same
    name follows. -/
def counted : DuplicatePolicy → List Contribution → List Contribution
  | .union, slots => slots
  | .lastWins, [] => []
  | .lastWins, s :: rest =>
    if rest.any (·.name == s.name) then counted .lastWins rest
    else s :: counted .lastWins rest

end CallAtlas.Extract
