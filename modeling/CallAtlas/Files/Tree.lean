import CallAtlas.Files.Path

/-! # File trees

    Folders and files as a value, with the working directory that relative paths start from.
    Two entries of a folder never have the same name, and whatever is put into a tree leaves it
    so. Reading and writing fail for the same reasons, and with the same words, as they do on
    disk.
-/

namespace CallAtlas.Files

/-! ## Section 1: Trees -/

inductive Tree where
  | file (bytes : ByteArray)
  | folder (names : List String) (distinct : names.Nodup) (child : Fin names.length → Tree)
  deriving Inhabited

namespace Tree

def empty : Tree := folder [] List.nodup_nil nofun

def isFolder : Tree → Bool
  | folder _ _ _ => true
  | file _ => false

/-- The entries of a folder; a file has none. -/
def entries : Tree → List (String × Tree)
  | folder names _ child => names.zip (List.ofFn child)
  | file _ => []

/-- The folder of some entries. -/
def ofEntries (es : List (String × Tree)) (h : (es.map Prod.fst).Nodup) : Tree :=
  -- The children are laid out once, and not looked for in the list again and again.
  let children := (es.map Prod.snd).toArray
  folder (es.map Prod.fst) h fun i =>
    have : i < children.size := by simpa [children] using i.isLt
    children[i]

def child? (t : Tree) (name : String) : Option Tree := t.entries.lookup name

/-- What stands at a location, given by the names on the way. -/
def at? (t : Tree) : List String → Option Tree
  | [] => some t
  | name :: rest =>
    match t.child? name with
    | some child => child.at? rest
    | none => none

/-- Replaces the entry of a name, or adds it behind the others. -/
def putEntry (name : String) (value : Tree) : List (String × Tree) → List (String × Tree)
  | [] => [(name, value)]
  | (other, t) :: rest =>
    if other = name then (name, value) :: rest else (other, t) :: putEntry name value rest

theorem nodup_entries (t : Tree) : (t.entries.map Prod.fst).Nodup := by
  cases t with
  | file bytes => exact List.nodup_nil
  | folder names distinct child =>
    rw [entries, List.map_fst_zip (Nat.le_of_eq List.length_ofFn.symm)]
    exact distinct

theorem mem_putEntry {name : String} {value : Tree} {es : List (String × Tree)}
    {e : String × Tree} (he : e ∈ putEntry name value es) : e = (name, value) ∨ e ∈ es := by
  induction es with
  | nil => exact .inl (List.mem_singleton.mp he)
  | cons first rest ih =>
    obtain ⟨other, t⟩ := first
    unfold putEntry at he
    split at he
    · rcases List.mem_cons.mp he with rfl | hrest
      · exact .inl rfl
      · exact .inr (List.mem_cons_of_mem _ hrest)
    · rcases List.mem_cons.mp he with rfl | hrest
      · exact .inr List.mem_cons_self
      · exact (ih hrest).imp_right (List.mem_cons_of_mem _)

theorem nodup_putEntry {name : String} {value : Tree} {es : List (String × Tree)}
    (h : (es.map Prod.fst).Nodup) : ((putEntry name value es).map Prod.fst).Nodup := by
  induction es with
  | nil => exact List.nodup_cons.mpr ⟨List.not_mem_nil, List.nodup_nil⟩
  | cons first rest ih =>
    obtain ⟨other, t⟩ := first
    rw [List.map_cons, List.nodup_cons] at h
    unfold putEntry
    split
    next heq => exact List.nodup_cons.mpr ⟨heq ▸ h.1, h.2⟩
    next hne =>
      refine List.nodup_cons.mpr ⟨fun hmem => ?_, ih h.2⟩
      obtain ⟨e, he, heq⟩ := List.mem_map.mp hmem
      rcases mem_putEntry he with rfl | hrest
      · exact hne heq.symm
      · exact h.1 (List.mem_map.mpr ⟨e, hrest, heq⟩)

/-- Puts a tree at a location. Folders on the way are made where they are missing. -/
def put : Tree → List String → Tree → Tree
  | _, [], value => value
  | t, name :: rest, value =>
    ofEntries (putEntry name (((t.child? name).getD empty).put rest value) t.entries)
      (nodup_putEntry t.nodup_entries)

end Tree

/-! ## Section 2: Faults -/

/-- Why a file cannot be read or written. -/
inductive Fault where
  | notFound
  | notFolder
  | isFolder
  | notText
  deriving DecidableEq, Inhabited

def Fault.message : Fault → String
  | notFound => "No such file or directory (os error 2)"
  | notFolder => "Not a directory (os error 20)"
  | isFolder => "Is a directory (os error 21)"
  | notText => "stream did not contain valid UTF-8"

/-- A text from its bytes. -/
def decodeText (bytes : ByteArray) : Except Fault String :=
  match String.fromUTF8? bytes with
  | some text => .ok text
  | none => .error .notText

end CallAtlas.Files

namespace CallAtlas

open Files

/-! ## Section 3: Paths in a tree -/

/-- A tree and the location of its working directory. -/
structure FileSystem where
  root : Tree
  here : List String
  deriving Inhabited

namespace FileSystem

/-- Takes one step from a location, which has to be a folder. -/
def step (fs : FileSystem) (location : List String) (name : String) : Except Fault (List String) :=
  match fs.root.at? location with
  | none => .error .notFound
  | some (.file _) => .error .notFolder
  | some (.folder names _ _) =>
    if name = "." then .ok location
    else if name = ".." then .ok location.dropLast
    else if name ∈ names then .ok (location ++ [name])
    else .error .notFound

def start (fs : FileSystem) (path : String) : List String :=
  if Path.isAbsolute path then [] else fs.here

/-- The location that a path leads to. -/
def locate (fs : FileSystem) (path : String) : Except Fault (List String) :=
  if path = "" then .error .notFound
  else
    let steps := Path.steps path ++ if Path.endsInSlash path then ["."] else []
    steps.foldlM fs.step (fs.start path)

/-- What a path leads to. -/
def find (fs : FileSystem) (path : String) : Except Fault Tree :=
  match fs.locate path with
  | .error fault => .error fault
  | .ok location =>
    match fs.root.at? location with
    | some t => .ok t
    | none => .error .notFound

def isFolder (fs : FileSystem) (path : String) : Bool :=
  match fs.find path with
  | .ok t => t.isFolder
  | .error _ => false

def contains (fs : FileSystem) (path : String) : Bool := (fs.find path).toBool

def readBytes (fs : FileSystem) (path : String) : Except Fault ByteArray :=
  match fs.find path with
  | .ok (.file bytes) => .ok bytes
  | .ok (.folder _ _ _) => .error .isFolder
  | .error fault => .error fault

def readText (fs : FileSystem) (path : String) : Except Fault String :=
  (fs.readBytes path).bind decodeText

/-- Writes a file. Its folder has to exist, and a folder is not overwritten. -/
def write (fs : FileSystem) (path : String) (bytes : ByteArray) : Except Fault FileSystem :=
  match (Path.steps path).reverse with
  | [] => .error (if Path.isAbsolute path then .isFolder else .notFound)
  | last :: above =>
    match above.reverse.foldlM fs.step (fs.start path) with
    | .error fault => .error fault
    | .ok location =>
      match fs.root.at? location with
      | none => .error .notFound
      | some (.file _) => .error .notFolder
      | some folder =>
        if last = "." ∨ last = ".." ∨ Path.endsInSlash path then .error .isFolder
        else
          match folder.child? last with
          | some (.folder _ _ _) => .error .isFolder
          | _ => .ok { fs with root := fs.root.put (location ++ [last]) (.file bytes) }

end FileSystem

end CallAtlas
