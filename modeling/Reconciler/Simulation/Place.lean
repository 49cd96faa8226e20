import Reconciler.Simulation.FileTree

/-!
The place of a store's file among other files, and what can happen to them behind the store's back.
-/
namespace Reconciler

/-- What can happen to the files. -/
inductive Tampering
  | write (text : Option String)
  | removeFile
  | removeDirectory
  | directoryIsFile
  | fileIsFolder
  | asideIsFolder
  | asideLeftOver
  deriving DecidableEq

/-- A store's file and the files around it. -/
structure Place where
  path : Path
  /-- The path is looked up from a working directory, which is the folder where paths start. -/
  relative : Bool
  tree : FileTree
  deriving DecidableEq

namespace Place

/-- The files before a store is opened: one with some text, and one in the way where the path
begins. -/
def before (path : Path) (content : Option String) (blocked : Bool) : FileTree :=
  let tree := FileTree.empty
  let tree :=
    match blocked, path.parts.find? Path.isName with
    | true, some name => tree.put (name :: FileTree.start) (.file (some ""))
    | _, _ => tree
  match content with
  | none => tree
  | some text => ((tree.makeFolders path.folder).bind (·.write path (some text))).getD tree

/-- Opens a store: the folders on the way to its file are made. -/
def open? (path : Path) (relative : Bool) (content : Option String) (blocked : Bool) :
    Option Place :=
  ((before path content blocked).makeFolders path.folder).map fun tree => ⟨path, relative, tree⟩

/-- Puts a file where a folder was taken away. A working directory that was taken away is not found
again, whatever takes its place. -/
def displace (place : Place) (tree : FileTree) : FileTree :=
  if place.path.folder.parts.isEmpty then
    if place.relative then tree else tree.put FileTree.start (.file (some ""))
  else (tree.write place.path.folder (some "")).getD tree

/-- What becomes of the files, unless it cannot be done. -/
def tampered? (place : Place) : Tampering → Option FileTree
  | .write text => place.tree.write place.path text
  | .removeFile => place.tree.removeFile place.path
  | .removeDirectory => place.tree.removeFolder place.path.folder
  | .directoryIsFile => (place.tree.removeFolder place.path.folder).map place.displace
  | .fileIsFolder => (place.tree.removeFile place.path).bind (·.makeFolder place.path)
  | .asideIsFolder => place.tree.makeFolder (place.path.extended ".tmp")
  | .asideLeftOver => place.tree.write (place.path.extended ".tmp") (some "")

def tamper (place : Place) (tampering : Tampering) : Place :=
  { place with tree := (place.tampered? tampering).getD place.tree }

end Place

end Reconciler
