import Reconciler.Json.Parser

/-!
Typed reading. A `Reader` takes a value as it stands in a text to a value of a type, or refuses it;
it is told how many containers are around the value, because nesting is limited where values are
looked at. A record is read from an object, by name, or from an array, by place.

Covers what is derived as `Deserialize` for the types of the engine, and `default` of their fields.
-/
namespace Reconciler

/-- Containers may be nested this deep in a value that is looked at. -/
def Json.maxDepth : Nat := 127

mutual

/-- The value itself, if every number and string in it can be read and it is not nested too deep.
`depth` counts the containers around it. -/
def Parsed.toJson? (depth : Nat) : Parsed → Option Json
  | .null => some .null
  | .bool b => some (.bool b)
  | .number n => n.map .number
  | .string s => s.map .string
  | .array xs =>
    if depth < Json.maxDepth then .array <$> itemsToJson? (depth + 1) xs else none
  | .object ms =>
    if depth < Json.maxDepth then
      (fun ms => .object (Properties.ofMembers ms)) <$> membersToJson? (depth + 1) ms
    else none

def Parsed.itemsToJson? (depth : Nat) : List Parsed → Option (List Json)
  | [] => some []
  | x :: xs => do
    let x ← Parsed.toJson? depth x
    let xs ← itemsToJson? depth xs
    return x :: xs

def Parsed.membersToJson? (depth : Nat) :
    List (Option String × Parsed) → Option (List (String × Json))
  | [] => some []
  | (name, x) :: ms => do
    let name ← name
    let x ← Parsed.toJson? depth x
    let ms ← membersToJson? depth ms
    return (name, x) :: ms

end

/-- Reads a value that stands inside `depth` containers. -/
abbrev Reader (α : Type) := (depth : Nat) → Parsed → Option α

namespace Reader

def string : Reader String
  | _, .string s => s
  | _, _ => none

def bool : Reader Bool
  | _, .bool b => some b
  | _, _ => none

/-- A whole number from zero up to, but not including, `bound`. -/
def below (bound : Nat) : Reader Nat
  | _, .number (some (.whole n _)) => if 0 ≤ n ∧ n < bound then some n.toNat else none
  | _, _ => none

def uint64 : Reader UInt64 := fun d p => Nat.toUInt64 <$> below UInt64.size d p

def uint32 : Reader UInt32 := fun d p => Nat.toUInt32 <$> below UInt32.size d p

def uint16 : Reader UInt16 := fun d p => Nat.toUInt16 <$> below UInt16.size d p

def nullable {α : Type} (inner : Reader α) : Reader (Option α)
  | _, .null => some none
  | d, p => some <$> inner d p

def list {α : Type} (inner : Reader α) : Reader (List α)
  | d, .array xs => if d < Json.maxDepth then xs.mapM (inner (d + 1)) else none
  | _, _ => none

def properties : Reader Properties
  | d, .object ms =>
    match Parsed.toJson? d (.object ms) with
    | some (.object props) => some props
    | _ => none
  | _, _ => none

end Reader

/-- The parts of a record that were written, by name, and whether they were told by their place. -/
structure Parts where
  depth : Nat
  byPlace : Bool
  entries : List (String × Parsed)

namespace Parts

/-- The members of an object with readable names. -/
def named : List (Option String × Parsed) → Option (List (String × Parsed))
  | [] => some []
  | (name, value) :: rest => do
    let name ← name
    let rest ← named rest
    return (name, value) :: rest

/-- The parts of a record with the given names. Unknown names are passed over and a known name must
not be repeated; an array must not be longer than the record. -/
def of? (names : List String) (depth : Nat) : Parsed → Option Parts
  | .object members =>
    if depth < Json.maxDepth then do
      let known := (← named members).filter fun (name, _) => names.contains name
      if (known.map Prod.fst).Nodup then some ⟨depth + 1, false, known⟩ else none
    else none
  | .array items =>
    if depth < Json.maxDepth ∧ items.length ≤ names.length then
      some ⟨depth + 1, true, names.zip items⟩
    else none
  | _ => none

def required {α : Type} (parts : Parts) (name : String) (read : Reader α) : Option α :=
  (parts.entries.lookup name).bind (read parts.depth)

def withDefault {α : Type} (parts : Parts) (name : String) (default : α) (read : Reader α) :
    Option α :=
  match parts.entries.lookup name with
  | none => some default
  | some value => read parts.depth value

/-- A part that an object may leave out and an array may not. -/
def optional {α : Type} (parts : Parts) (name : String) (read : Reader α) : Option (Option α) :=
  match parts.entries.lookup name with
  | none => if parts.byPlace then none else some none
  | some value => read.nullable parts.depth value

end Parts

/-- Reads a text that holds one value of a type. -/
def Reader.ofText? {α : Type} (read : Reader α) (text : String) : Option α :=
  (Parsed.ofText? text).bind (read 0)

end Reconciler
