/-
Module: PaperTrading.Storage.Tree
Purpose: A finite tree of files as a place that files are kept in.
Main exports: FileTree, FileTree.find, FileTree.access
-/
import PaperTrading.Storage.Access

namespace PaperTrading

/-- Files by their paths from the working directory; each path is a list of names.  A directory exists where a file
is below it, and the working directory always does. -/
structure FileTree where
  files : List (List String × String)

namespace FileTree

/-- What is at a path. -/
inductive Node where
  | file (text : String)
  | directory (names : List String)

/-- The parts of a path between its slashes. -/
def parts (path : String) : List String :=
  (path.toList.splitOn '/').map String.ofList

/-- The tree of files with the given paths. -/
def ofList (files : List (String × String)) : FileTree :=
  ⟨files.map fun (path, text) => ((parts path).filter fun name => !name.isEmpty && name != ".", text)⟩

/-- The names that follow a list of names in a path. -/
def below (tree : FileTree) (names : List String) : List String :=
  (tree.files.filterMap fun (path, _) =>
    if names.isPrefixOf path then (path.drop names.length).head? else none).eraseDups

/-- What is at a list of names. -/
def node? (tree : FileTree) (names : List String) : Option Node :=
  match tree.files.find? fun (path, _) => path == names with
  | some (_, text) => some (.file text)
  | none =>
    match tree.below names with
    | [] => if names.isEmpty then some (.directory []) else none
    | entries => some (.directory entries)

/-- Follows the parts of a path from the directory at a list of names.  An empty part and a point stay there, two
points lead to the directory above. -/
def walk (tree : FileTree) (here : List String) : List String → Except FileProblem Node
  | [] =>
    match tree.node? here with
    | some node => .ok node
    | none => .error .notFound
  | name :: rest =>
    match tree.node? here with
    | none => .error .notFound
    | some (.file _) => .error .notDirectory
    | some (.directory _) =>
      if name.isEmpty || name == "." then tree.walk here rest
      else if name == ".." then
        if here.isEmpty then .error .notFound else tree.walk here.dropLast rest
      else tree.walk (here ++ [name]) rest

/-- What is at a path.  There is nothing outside the working directory, and nothing at the empty path. -/
def find (tree : FileTree) (path : String) : Except FileProblem Node :=
  if path.isEmpty || path.startsWith "/" then .error .notFound else tree.walk [] (parts path)

/-- The text of the file at a path. -/
def readText (tree : FileTree) (path : String) : Except FileProblem String :=
  match tree.find path with
  | .ok (.file text) => .ok text
  | .ok (.directory _) => .error .isDirectory
  | .error problem => .error problem

/-- The names in the directory at a path. -/
def names (tree : FileTree) (path : String) : Except FileProblem (List String) :=
  match tree.find path with
  | .ok (.directory names) => .ok names
  | .ok (.file _) => .error .notDirectory
  | .error problem => .error problem

/-- The tree as a place that files are kept in. -/
def access (tree : FileTree) : FileAccess Id :=
  ⟨tree.readText, tree.names⟩

end FileTree

end PaperTrading
