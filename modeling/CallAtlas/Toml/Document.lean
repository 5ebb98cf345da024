import CallAtlas.Toml.Value

/-! # Building a TOML document

    Headers and keys add to a document one after the other. A table is explicit once it has a
    header of its own. A table that only stands in the path of a header or of a dotted key is
    implicit. A header may make an implicit table explicit, unless dotted keys have made it;
    dotted keys may add only to tables that dotted keys have made.
-/

namespace CallAtlas.Toml

inductive Item where
  | value (v : Toml)
  | table (implicit dotted : Bool) (entries : List (String × Item))
  /-- An array of tables. -/
  | tables (elements : List (List (String × Item)))
  deriving Inhabited

abbrev Entries := List (String × Item)

namespace Entries

def put (entries : Entries) (key : String) (item : Item) : Entries :=
  if entries.any (·.1 == key) then
    entries.map fun (k, old) => if k == key then (k, item) else (k, old)
  else entries ++ [(key, item)]

end Entries

/-- A table under construction. -/
structure OpenTable where
  implicit : Bool
  dotted : Bool
  entries : Entries
  deriving Inhabited

def OpenTable.root : OpenTable := ⟨false, false, []⟩

def OpenTable.item (t : OpenTable) : Item := .table t.implicit t.dotted t.entries

/-- Changes the table at the end of a path. Tables that are missing on the way are made; of an
    array of tables the last is meant. With `dotted`, the path may not enter explicit tables. -/
def descend (dotted : Bool) (change : OpenTable → Option OpenTable) :
    List String → OpenTable → Option OpenTable
  | [], t => change t
  | key :: path, t =>
    match t.entries.lookup key with
    | none =>
      (descend dotted change path ⟨true, dotted, []⟩).map fun child =>
        { t with entries := t.entries.put key child.item }
    | some (.value _) => none
    | some (.table implicit childDotted entries) =>
      if dotted && !implicit then none
      else
        (descend dotted change path ⟨implicit, childDotted, entries⟩).map fun child =>
          { t with entries := t.entries.put key child.item }
    | some (.tables elements) =>
      match elements.getLast? with
      | none => none
      | some last =>
        (descend dotted change path ⟨false, false, last⟩).map fun child =>
          { t with entries := t.entries.put key (.tables (elements.dropLast ++ [child.entries])) }

/-- Adds a value under a dotted key to a table. -/
def addValue (path : List String) (key : String) (v : Toml) (t : OpenTable) : Option OpenTable :=
  descend true (fun t =>
    if t.dotted == path.isEmpty then none
    else if (t.entries.lookup key).isSome then none
    else some { t with entries := t.entries ++ [(key, .value v)] }) path t

/-- Opens the table of a header. -/
def addTable (path : List String) (key : String) (root : OpenTable) : Option OpenTable :=
  descend false (fun t =>
    match t.entries.lookup key with
    | none => some { t with entries := t.entries ++ [(key, .table false false [])] }
    | some (.table true false entries) =>
      some { t with entries := t.entries.put key (.table false false entries) }
    | some _ => none) path root

/-- Opens a further element of an array of tables. -/
def addElement (path : List String) (key : String) (root : OpenTable) : Option OpenTable :=
  descend false (fun t =>
    match t.entries.lookup key with
    | none => some { t with entries := t.entries ++ [(key, .tables [[]])] }
    | some (.tables elements) =>
      some { t with entries := t.entries.put key (.tables (elements ++ [[]])) }
    | some _ => none) path root

mutual

/-- The value that has been built. -/
def Item.freeze : Item → Toml
  | .value v => v
  | .table _ _ entries => .table (freezeEntries entries)
  | .tables elements => .array (freezeElements elements)

def freezeEntries : List (String × Item) → List (String × Toml)
  | [] => []
  | (key, item) :: rest => (key, item.freeze) :: freezeEntries rest

def freezeElements : List (List (String × Item)) → List Toml
  | [] => []
  | entries :: rest => .table (freezeEntries entries) :: freezeElements rest

end

end CallAtlas.Toml
