import Promotion.Text.Split

/-!
# Paths and trees of files

A path is a text whose parts are divided by slashes. It is followed part by part from the root of a
tree of files: an empty part and a point stay where they are, two points lead to the directory
around, and a name leads to a file or directory there. Only in a directory is there a way on, so
that a path through a file or through a directory that is not there leads nowhere.
-/

namespace Promotion

/-! ## Paths -/

namespace FilePath

/-- A file in a directory. A file that starts with a slash stands for itself. -/
def join (directory file : String) : String :=
  if file.startsWith "/" ∨ directory = "" then file
  else if directory.endsWith "/" then directory ++ file
  else directory ++ "/" ++ file

def lastPart (path : String) : List Char :=
  match Text.cutLast '/' path.toList with
  | some (_, last) => last
  | none => path.toList

/-- What stands after the last point of a file's name, if anything stands before it. -/
def extension? (path : String) : Option String :=
  match Text.cutLast '.' (lastPart path) with
  | some (_ :: _, extension) => some (String.ofList extension)
  | _ => none

end FilePath

/-! ## Trees -/

/-- Texts of files, each with the names that lead to it from the root. -/
structure FileTree where
  files : List (List String × String)

namespace FileTree

/-- The names in a path that leads downwards. -/
def namesOf (path : String) : List String :=
  ((Text.pieces '/' path.toList).map String.ofList).filter fun part => part ≠ "" ∧ part ≠ "."

def ofList (files : List (String × String)) : FileTree :=
  ⟨files.map fun (path, text) => (namesOf path, text)⟩

def textAt? (tree : FileTree) (place : List String) : Option String :=
  tree.files.lookup place

/-- Whether there is a directory at a place: the root, or what lies above a file. -/
def isDirectory (tree : FileTree) (place : List String) : Bool :=
  place = [] || tree.files.any fun (names, _) =>
    place.length < names.length && place.isPrefixOf names

/-- Follow the parts of a path from a place. -/
def follow? (tree : FileTree) (place : List String) : List String → Option (List String)
  | [] => some place
  | part :: parts =>
    if !tree.isDirectory place then none
    else if part = "" ∨ part = "." then tree.follow? place parts
    else if part = ".." then if place = [] then none else tree.follow? place.dropLast parts
    else
      let next := place ++ [part]
      if tree.isDirectory next || (tree.textAt? next).isSome then tree.follow? next parts else none

/-- The text of the file that a path leads to. What lies outside of the tree is not there. -/
def read? (tree : FileTree) (path : String) : Option String := do
  if path.startsWith "/" then none
  let place ← tree.follow? [] ((Text.pieces '/' path.toList).map String.ofList)
  tree.textAt? place

end FileTree

end Promotion
