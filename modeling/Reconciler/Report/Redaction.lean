import Reconciler.Failure
import Reconciler.Simulation.World

/-!
Texts made the same on every run. What a file system, a parser or a background task adds to a
failure differs from machine to machine and is cut off; identifiers handed out by a world are told
by their number.
-/
namespace Reconciler.Redaction

/-- After these words, a colon and a blank, a text that is not ours follows. -/
def cutWords : List (List Char) :=
  (([.directoryNotCreated, .notInspected, .notRead, .notParsed, .notWritten, .notReplaced] :
    List StorageFault).map StorageFault.text ++ ["forward task panicked"]).map String.toList

/-- Cuts a text after the first of the words. -/
def cut : List Char → List Char
  | [] => []
  | c :: rest =>
    match cutWords.find? fun words => (words ++ [':', ' ']).isPrefixOf (c :: rest) with
    | some words => words
    | none => c :: cut rest

/-- The name that an identifier has in reports. -/
def label (n : Nat) : List Char := 'i' :: 'd' :: '#' :: Nat.toDigits 10 n

/-- Replaces the first `count` identifiers by their labels, after leaving out some characters. -/
def labelled (ids : Identifiers) (count : Nat) : Nat → List Char → List Char
  | _, [] => []
  | skip + 1, _ :: rest => labelled ids count skip rest
  | 0, c :: rest =>
    match ids.number? count (c :: rest) with
    | some n => label n ++ labelled ids count ((ids.spelling n).length - 1) rest
    | none => c :: labelled ids count 0 rest

def text (ids : Identifiers) (count : Nat) (s : String) : String :=
  String.ofList (cut (labelled ids count 0 s.toList))

/-- A report in which the identifiers that a world handed out have their labels. -/
def json (world : World) (report : Json) : Json := report.mapTexts (text world.ids world.minted)

/-- A text that is the label of an identifier that was handed out stands for it. -/
def resolve (world : World) (s : String) : String :=
  match s.toList with
  | 'i' :: 'd' :: '#' :: digits =>
    match (String.ofList digits).toNat? with
    | some n =>
      if 1 ≤ n ∧ n ≤ world.minted ∧ digits = Nat.toDigits 10 n then world.ids.nth n else s
    | none => s
  | _ => s

end Reconciler.Redaction
