/-!
Files as the command line sees them, and a folder of plain files that stands in for a disk.
-/

namespace BlockStage.CommandLine

/-- How files are read and written. Neither tells why it fails. -/
structure Files (m : Type → Type) where
  read : (path : String) → m (Option ByteArray)
  write : (path text : String) → m Bool

/-- A folder without folders in it: files by their names, the latest writing of a name first. -/
structure Folder where
  files : List (String × ByteArray)

namespace Folder

/-- The parts of a path between its slashes. -/
def parts (path : List Char) : List (List Char) :=
  path.foldr (fun c parts =>
    match parts with
    | part :: rest => if c = '/' then [] :: part :: rest else (c :: part) :: rest
    | [] => if c = '/' then [[], []] else [[c]]) [[]]

/-- The parts of a path after those that stay in the folder. Only a path that begins at the
folder itself has such parts; one that begins with a slash begins elsewhere. -/
def beyond (path : String) : List (List Char) :=
  match parts path.toList with
  | ['.'] :: rest => rest.dropWhile fun part => part = ['.'] || part = []
  | all => all

/-- The name of the file in the folder that a path leads to, if it leads to one. -/
def name? (path : String) : Option String :=
  match beyond path with
  | [name] =>
    if name = [] ∨ name = ['.'] ∨ name = ['.', '.'] then none else some (String.ofList name)
  | _ => none

def content? (folder : Folder) (name : String) : Option ByteArray := folder.files.lookup name

/-- The folder as the files of a command line. -/
def access : Files (StateM Folder) where
  read path := return (name? path).bind (← get).content?
  write path text :=
    match name? path with
    | some name => do
      modify fun folder => ⟨(name, text.toUTF8) :: folder.files⟩
      return true
    | none => return false

end Folder

end BlockStage.CommandLine
