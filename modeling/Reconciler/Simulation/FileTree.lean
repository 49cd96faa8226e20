import Reconciler.Workspace.FileStore

/-!
A small file system: folders and files below one top folder, looked up along paths that start in a
folder of their own. What cannot be done gives no tree.
-/
namespace Reconciler

/-- What stands at a spot. A file that holds no text gives none. -/
inductive Entry
  | file (text : Option String)
  | folder
  deriving DecidableEq

/-- Where something stands: the names on the way to it, the last one first. -/
abbrev Spot := List String

/-- Why a path leads nowhere. -/
inductive WalkFault
  | missing
  | refused
  deriving DecidableEq, Repr

structure FileTree where
  entries : List (Spot × Entry)
  deriving DecidableEq

namespace FileTree

/-- The folder in which paths start. -/
def start : Spot := ["start"]

/-- The folder in which paths start, and the top folder around it. -/
def empty : FileTree := ⟨[(start, .folder), ([], .folder)]⟩

def find (spot : Spot) (tree : FileTree) : Option Entry := tree.entries.lookup spot

def put (spot : Spot) (entry : Entry) (tree : FileTree) : FileTree :=
  ⟨(spot, entry) :: tree.entries.filter (·.1 != spot)⟩

def remove (spot : Spot) (tree : FileTree) : FileTree := ⟨tree.entries.filter (·.1 != spot)⟩

/-- Takes away what stands below a spot. -/
def clear (spot : Spot) (tree : FileTree) : FileTree :=
  ⟨tree.entries.filter fun (other, _) => other == spot || !spot.isSuffixOf other⟩

/-- A name has at most this many bytes. -/
def nameLimit : Nat := 255

/-- A path has at most this many bytes. -/
def pathLimit : Nat := 4095

/-- Whether a path can be asked for at all. -/
def isUsable (path : Path) : Bool :=
  path.text.utf8ByteSize ≤ pathLimit && !path.text.contains '\x00'

/-- One part further. There has to be a folder to look it up in; above the top is the top. -/
def step (tree : FileTree) (spot : Spot) (part : String) : Except WalkFault Spot :=
  match tree.find spot with
  | none => .error .missing
  | some (.file _) => .error .refused
  | some .folder =>
    if Path.stays part then .ok spot
    else if Path.goesUp part then .ok spot.tail
    else if nameLimit < part.utf8ByteSize then .error .refused
    else .ok (part :: spot)

/-- The spot that a path leads to, whether something stands there or not. -/
def walk (path : Path) (tree : FileTree) : Except WalkFault Spot :=
  if isUsable path then path.parts.foldlM tree.step start else .error .refused

def look (path : Path) (tree : FileTree) : Option Entry :=
  match tree.walk path with
  | .ok spot => tree.find spot
  | .error _ => none

def inspect (path : Path) (tree : FileTree) : PathStatus :=
  match tree.walk path with
  | .ok spot => if (tree.find spot).isSome then .present else .missing
  | .error .missing => .missing
  | .error .refused => .unknown

/-- The names in a folder, in order. -/
def names (path : Path) (tree : FileTree) : Option (List String) :=
  match tree.walk path with
  | .ok spot =>
    if tree.find spot = some .folder then
      some <| (tree.entries.filterMap fun (other, _) =>
        match other with
        | name :: around => if around = spot then some name else none
        | [] => none).mergeSort (· ≤ ·)
    else none
  | .error _ => none

/-- The spot of a file that is there or can be made. -/
def fileSpot (path : Path) (tree : FileTree) : Option Spot :=
  match tree.walk path with
  | .ok spot => if path.isPlain && tree.find spot != some .folder then some spot else none
  | .error _ => none

def write (path : Path) (text : Option String) (tree : FileTree) : Option FileTree :=
  (tree.fileSpot path).map fun spot => tree.put spot (.file text)

/-- The spot of a file and what it holds. -/
def file? (path : Path) (tree : FileTree) : Option (Spot × Option String) :=
  match tree.fileSpot path with
  | none => none
  | some spot =>
    match tree.find spot with
    | some (.file text) => some (spot, text)
    | _ => none

def removeFile (path : Path) (tree : FileTree) : Option FileTree :=
  (tree.file? path).map fun (spot, _) => tree.remove spot

/-- Moves a file, over another one if there is one. -/
def rename (source target : Path) (tree : FileTree) : Option FileTree :=
  match tree.file? source, tree.fileSpot target with
  | some (spot, text), some goal => some ((tree.remove spot).put goal (.file text))
  | _, _ => none

def makeFolder (path : Path) (tree : FileTree) : Option FileTree :=
  match tree.fileSpot path with
  | some spot => if (tree.find spot).isNone then some (tree.put spot .folder) else none
  | none => none

/-- One part further, where a folder is made if nothing stands there yet. -/
def makingStep : FileTree × Spot → String → Except WalkFault (FileTree × Spot)
  | (tree, spot), part => do
    let next ← tree.step spot part
    return (if (tree.find next).isNone then tree.put next .folder else tree, next)

/-- Makes the folders on the way along a path and the one that it leads to. -/
def makeFolders (path : Path) (tree : FileTree) : Option FileTree :=
  if isUsable path then
    match path.parts.foldlM makingStep (tree, start) with
    | .ok (tree, spot) => if tree.find spot = some .folder then some tree else none
    | .error _ => none
  else none

/-- Takes a folder away with all that it holds. One that is reached by going up stays, without what
it held: the way to it led through that. -/
def removeFolder (path : Path) (tree : FileTree) : Option FileTree :=
  match tree.walk path with
  | .ok spot =>
    if tree.find spot = some .folder then
      let cleared := tree.clear spot
      some (if path.endsUp then cleared else cleared.remove spot)
    else none
  | .error _ => none

/-- Whether something was done, and the tree after it. -/
def outcome (tree : FileTree) : Option FileTree → Bool × FileTree
  | some changed => (true, changed)
  | none => (false, tree)

def answer : (request : FileRequest) → FileTree → (fresh : String) → request.Reply × FileTree
  | .inspect path, tree, _ => (tree.inspect path, tree)
  | .read path, tree, _ =>
    match tree.look path with
    | some (.file text) => (text, tree)
    | _ => (none, tree)
  | .write path text, tree, _ => tree.outcome (tree.write path (some text))
  | .rename source target, tree, _ => tree.outcome (tree.rename source target)
  | .freshId, tree, fresh => (fresh, tree)

end FileTree

end Reconciler
