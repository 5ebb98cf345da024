import CallAtlas.Config.Config
import CallAtlas.Files.Tree
import CallAtlas.Log.Line

/-! # Loading the configuration

    A folder's configuration is that of its configuration file, or the default if there is no
    such file or if it cannot be used.
-/

namespace CallAtlas.Config

open CallAtlas.Files
open CallAtlas.Log

/-- The configuration that the bytes of a file set. -/
def ofBytes? (bytes : ByteArray) : Option Config := (String.fromUTF8? bytes).bind ofText?

def unusable (failure : String) : Line :=
  ⟨.warn, .config, "failed to " ++ failure ++ ". Using defaults.", []⟩

/-- Loads the configuration of a folder. -/
def load (fs : FileSystem) (folder : String) : List Line × Config :=
  let path := Path.join folder fileName
  if !fs.contains path then ([], default)
  else
    match fs.readText path with
    | .error fault => ([unusable ("read " ++ fileName ++ ": " ++ fault.message)], default)
    | .ok text =>
      match ofText? text with
      | none => ([unusable ("parse " ++ fileName ++ ": not a valid configuration")], default)
      | some config => ([⟨.debug, .config, "loaded config", [("path", path)]⟩], config)

/-- The folder whose configuration applies to a file. Standard input, written `-`, belongs to
    the working directory. -/
def folderFor (file : String) : String :=
  let parent := Path.parent file
  if file = "-" ∨ parent = "" then "." else parent

end CallAtlas.Config
