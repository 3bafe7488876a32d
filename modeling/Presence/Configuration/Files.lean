/-!
# Files

A tree of files as the configuration is read from it. A file is known by the names that lead to it
from the root and has a text, unless its octets are no text. A path is followed name by name, from
the root or from the folder in which the program works: whatever is not the last name has to be a
folder.
-/

set_option autoImplicit false

namespace Presence

/-- The files of a tree, and folders that hold none. -/
structure FileTree where
  files : List (List String × Option String) := []
  folders : List (List String) := []
  /-- The folder in which the program works. -/
  working : List String := []
  deriving Repr, DecidableEq

/-- What stands at a place of a tree. -/
inductive FileKind where
  | file (text : Option String)
  | folder
  deriving Repr, DecidableEq

/-- The names on a path, between its strokes. -/
def pathNames (path : String) : List String := (path.toList.splitOn '/').map String.ofList

namespace FileTree

/-- What stands at a place. The root is a folder, and so is the one in which the program works and
what a file or a folder stands in. -/
def kindAt (t : FileTree) (place : List String) : Option FileKind :=
  match t.files.lookup place with
  | some text => some (.file text)
  | none =>
    if place.isPrefixOf t.working ∨ (t.files.any fun f => place.isPrefixOf f.1) ∨
        (t.folders.any fun f => place.isPrefixOf f) then some .folder
    else none

/-- Follows names from a place. -/
def walk (t : FileTree) (place : List String) : List String → Option (List String)
  | [] => some place
  | name :: rest =>
    match t.kindAt place with
    | some .folder =>
      if name = "" ∨ name = "." then walk t place rest
      -- the folder above, which is the root itself for the root
      else if name = ".." then walk t place.dropLast rest
      else if (t.kindAt (place ++ [name])).isSome then walk t (place ++ [name]) rest
      else none
    | _ => none

/-- The place from which a path is followed: the root, if the path begins with a stroke. -/
def start (t : FileTree) (path : String) : List String :=
  if path.toList.head? = some '/' then [] else t.working

/-- The place of a path, if anything stands there. The empty path leads nowhere. -/
def locate? (t : FileTree) (path : String) : Option (List String) :=
  if path = "" then none else walk t (t.start path) (pathNames path)

/-- What stands at the end of a path. -/
def kind? (t : FileTree) (path : String) : Option FileKind := (t.locate? path).bind t.kindAt

/-- The text of a file at the end of a path. -/
def text? (t : FileTree) (path : String) : Option String :=
  match t.kind? path with
  | some (.file text) => text
  | _ => none

/-- The names of the files that stand directly in a folder, in ascending order. -/
def namesIn (t : FileTree) (place : List String) : List String :=
  ((t.files.filterMap fun f =>
    match f.1.getLast? with
    | some name => if f.1 = place ++ [name] then some name else none
    | none => none)).mergeSort fun a b => a ≤ b

end FileTree

/-- A path with a name at its end. -/
def joinPath (path name : String) : String :=
  if path.toList.getLast? = some '/' then path ++ name else path ++ "/" ++ name

/-- The part of a file name after its last dot, which is not the first character. -/
def extension? (name : String) : Option String :=
  match name.toList.splitOn '.' with
  | [] => none
  | first :: rest =>
    match rest.getLast? with
    | some last => if first = [] ∧ rest.length = 1 then none else some (String.ofList last)
    | none => none

end Presence
