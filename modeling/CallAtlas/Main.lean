import CallAtlas.CommandLine.Run

/-! # The program

    Takes from disk what a command may look at, runs the command on it, and carries out what
    the run says.
-/

namespace CallAtlas

open CallAtlas.CommandLine
open CallAtlas.Files

/-! ## Section 1: Taking files from disk -/

/-- The bytes of a file; none if it cannot be read. -/
def diskBytes? (path : String) : IO (Option ByteArray) := do
  try return some (← IO.FS.readBinFile path)
  catch _ => return none

/-- The names in a folder; none if it cannot be listed. -/
def diskNames? (path : String) : IO (Option (List String)) := do
  try return some ((← (← IO.FS.realPath path).readDir).toList.map (·.fileName))
  catch _ => return none

/-- The location that a path names, without a look at the disk. -/
def locationOf (fs : FileSystem) (path : String) : List String :=
  (Path.steps path).foldl (fun location step =>
    if step = "." then location
    else if step = ".." then location.dropLast
    else location ++ [step]) (fs.start path)

/-- Puts what stands at a path into a file system, if there is anything and it is not yet there:
    a file with its bytes, or a folder without its entries. -/
def mount (fs : FileSystem) (path : String) : IO FileSystem := do
  let location := locationOf fs path
  if (fs.root.at? location).isSome then return fs
  match ← diskBytes? path with
  | some bytes => return { fs with root := fs.root.put location (.file bytes) }
  | none =>
    if (← diskNames? path).isSome then return { fs with root := fs.root.put location .empty }
    else return fs

/-- Puts a path and the folders on the way to it into a file system. -/
def mountPath (fs : FileSystem) (path : String) : IO FileSystem := do
  let start := if Path.isAbsolute path then "/" else ""
  let mut fs := fs
  for n in List.range (Path.steps path).length do
    fs ← mount fs (start ++ Path.text ((Path.steps path).take (n + 1)))
  return fs

/-- Puts a folder with all that is in it into a file system. Barred names are left out, since
    no command looks at them. -/
partial def mountTree (fs : FileSystem) (path : String) : IO FileSystem := do
  let mut fs ← mount fs path
  if fs.isFolder path then
    for name in (← diskNames? path).getD [] do
      if !Project.barredNames.contains name then fs ← mountTree fs (Path.join path name)
  return fs

/-- Puts the ignore files of a folder and of those around it into a file system. -/
def mountRules (fs : FileSystem) (path : String) : IO FileSystem := do
  let mut fs := fs
  let location := locationOf fs path
  for n in List.range (location.length + 1) do
    let folder := "/" ++ Path.text (location.take n)
    for name in [".ignore", ".gitignore", ".git/info/exclude"] do
      fs ← mountPath fs (Path.join folder name)
  return fs

/-- The files that a command may look at. -/
def filesFor (command : Command) : IO FileSystem := do
  let here := Path.steps (← IO.currentDir).toString
  let empty : FileSystem := ⟨Tree.empty.put here .empty, here⟩
  let path := command.operand
  let fs ← mountPath empty path
  let fs ← match command.output? with
    | some output => mountPath fs output
    | none => pure fs
  if command.isIndex then mountRules (← mountTree fs path) path
  else mountPath fs (Path.join (Config.folderFor path) Config.fileName)

/-! ## Section 2: Running -/

def standardInput (invocation : Except UsageError Invocation) : IO ByteArray := do
  match invocation with
  | .ok ⟨_, command⟩ =>
    if command.operand = "-" && !command.isIndex then (← IO.getStdin).readBinToEnd
    else return .empty
  | .error _ => return .empty

/-- The world in which arguments are to be run. -/
def worldFor (invocation : Except UsageError Invocation) : IO World := do
  let files ← match invocation with
    | .ok ⟨_, command⟩ => filesFor command
    | .error _ => pure ⟨.empty, []⟩
  return ⟨files, ← standardInput invocation, ← IO.getEnv "RUST_LOG", ← (← IO.getStdout).isTty,
    Extract.wholeDamaged⟩

/-- Writes the file that a run has written. -/
def writeResult (invocation : Except UsageError Invocation) (outcome : Outcome) : IO Unit := do
  match invocation with
  | .ok ⟨_, command⟩ =>
    match command.output? with
    | some path =>
      match outcome.files.readBytes path with
      | .ok bytes => IO.FS.writeBinFile path bytes
      | .error _ => return
    | none => return
  | .error _ => return

end CallAtlas

open CallAtlas CallAtlas.CommandLine in
def main (args : List String) : IO UInt32 := do
  let invocation := parse args
  let outcome := run (← worldFor invocation) args
  (← IO.getStderr).putStr outcome.errors
  (← IO.getStdout).putStr outcome.output
  if outcome.status = 0 then writeResult invocation outcome
  return outcome.status.toUInt32
