/-
Module: PaperTrading.Storage.Access
Purpose: Reading files and listing directories, without saying where they are kept.
Main exports: FileProblem, FileProblem.message, FileAccess, joinPath, stemWithExtension?
-/

namespace PaperTrading

/-- Why a file or a directory cannot be read. -/
inductive FileProblem where
  | notFound
  | notDirectory
  | isDirectory
  | other (description : String)
deriving DecidableEq, Repr

/-- The wording of each problem, as the operating system puts it. -/
def FileProblem.message : FileProblem → String
  | .notFound => "No such file or directory (os error 2)"
  | .notDirectory => "Not a directory (os error 20)"
  | .isDirectory => "Is a directory (os error 21)"
  | .other description => description

/-- A place that files are kept in. -/
structure FileAccess (m : Type → Type) where
  /-- The text of the file at a path. -/
  readText : String → m (Except FileProblem String)
  /-- The names of what is in the directory at a path, in any order. -/
  names : String → m (Except FileProblem (List String))

/-- The path of an entry of a directory.  A path from the root stands for itself. -/
def joinPath (directory name : String) : String :=
  if name.startsWith "/" || directory.isEmpty then name
  else if directory.endsWith "/" then directory ++ name
  else directory ++ "/" ++ name

/-- The part of a name before its last point, if the name has the given extension.  A point at the very start does
not begin an extension. -/
def stemWithExtension? (extension name : String) : Option String :=
  let reversed := name.toList.reverse
  let last := reversed.takeWhile (· != '.')
  match reversed.dropWhile (· != '.') with
  | '.' :: stem =>
    if stem.isEmpty || name == ".." || last.reverse != extension.toList then none
    else some (String.ofList stem.reverse)
  | _ => none

end PaperTrading
