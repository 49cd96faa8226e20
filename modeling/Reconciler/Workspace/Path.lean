/-!
Paths of files, as the parts between their slashes. An empty part and a single dot stay where they
are looked up, two dots go up to the folder around, and every other part is a name.

Covers the paths that `FileStateService` looks up.
-/
namespace Reconciler

structure Path where
  parts : List String
  deriving DecidableEq, Repr

namespace Path

def ofText (text : String) : Path := ⟨text.splitOn "/"⟩

def text (path : Path) : String := "/".intercalate path.parts

/-- Whether a part leads nowhere else. -/
def stays (part : String) : Bool := part == "" || part == "."

def goesUp (part : String) : Bool := part == ".."

def isName (part : String) : Bool := !stays part && !goesUp part

/-- The path without the parts at its end that stay. -/
def stem (path : Path) : Path := ⟨(path.parts.reverse.dropWhile stays).reverse⟩

/-- The path without the parts at either end that stay. -/
def trimmed (path : Path) : Path := ⟨path.stem.parts.dropWhile stays⟩

/-- The name of the file, if the last step is one. -/
def name? (path : Path) : Option String := path.stem.parts.getLast?.filter isName

/-- The folder around the file. -/
def folder (path : Path) : Path := stem ⟨path.stem.parts.dropLast⟩

/-- Whether the path goes up at its end. -/
def endsUp (path : Path) : Bool := path.stem.parts.getLast?.any goesUp

/-- Whether nothing follows the name. Only a folder can be looked up under another path. -/
def isPlain (path : Path) : Bool := path.parts.getLast?.any isName

/-- The file beside a file that is written before it takes the other's name. Where a path has no
name, it stands in the folder that the path leads to. -/
def aside (path : Path) : Path :=
  match path.name? with
  | some name => ⟨path.folder.parts ++ [name ++ ".tmp"]⟩
  | none => ⟨path.stem.parts ++ [".tmp"]⟩

/-- The path with more at the end of its text. -/
def extended (path : Path) (suffix : String) : Path :=
  ⟨path.parts.dropLast ++ [path.parts.getLast?.getD "" ++ suffix]⟩

/-- Nothing stays behind a part that leads somewhere. -/
theorem stem_of_last {parts : List String} {last : String} (leads : stays last = false) :
    stem ⟨parts ++ [last]⟩ = ⟨parts ++ [last]⟩ := by
  simp [stem, leads]

theorem stays_tmp (name : String) : stays (name ++ ".tmp") = false := by
  have long : 4 ≤ (name ++ ".tmp").length := by
    rw [String.length_append]
    exact Nat.le_add_left ..
  have named : name ++ ".tmp" ≠ "" := fun same => by
    rw [same] at long
    exact absurd long (by decide)
  have longer : name ++ ".tmp" ≠ "." := fun same => by
    rw [same] at long
    exact absurd long (by decide)
  simp [stays, named, longer]

/-- What is written aside is another file. -/
theorem aside_ne (path : Path) : path.aside ≠ path := by
  intro same
  unfold aside at same
  split at same
  case h_1 name found =>
    have stem : path.stem = path := by
      rw [← same]
      exact stem_of_last (stays_tmp name)
    have last : name ++ ".tmp" = name := by
      rw [name?, stem, ← same, List.getLast?_concat] at found
      exact (Option.filter_eq_some_iff.mp found).1 |> Option.some.inj
    have length := congrArg String.length last
    rw [String.length_append] at length
    exact absurd length (Nat.ne_of_gt (Nat.lt_add_of_pos_right (by decide)))
  case h_2 =>
    have stem : path.stem = path := by
      rw [← same]
      exact stem_of_last (stays_tmp "")
    have length := congrArg (fun p => p.parts.length) same
    simp [stem] at length

end Path

end Reconciler
