import Reconciler.Json.Reading

/-!
Reading with defaults. A member that is missing, or of another kind than the one asked for, counts
as the default of its kind. Of several members with one name the last counts.
-/
namespace Reconciler.Parsed

def member? (name : String) : Parsed → Option Parsed
  | .object members => (members.reverse.find? (·.1 == some name)).map Prod.snd
  | _ => none

/-- A member that is there and not `null`. -/
def given? (value : Parsed) (name : String) : Option Parsed :=
  match value.member? name with
  | some .null => none
  | found => found

def has (value : Parsed) (name : String) : Bool := (value.given? name).isSome

def toText : Parsed → String
  | .string (some text) => text
  | _ => ""

def toNat? : Parsed → Option Nat
  | .number (some (.whole n _)) => if n < 0 then none else some n.toNat
  | _ => none

def toFlag : Parsed → Bool
  | .bool flag => flag
  | _ => false

def toItems : Parsed → List Parsed
  | .array items => items
  | _ => []

def text (value : Parsed) (name : String) : String := ((value.member? name).map toText).getD ""

def nat? (value : Parsed) (name : String) : Option Nat := (value.member? name).bind toNat?

def nat (value : Parsed) (name : String) : Nat := (value.nat? name).getD 0

def flag (value : Parsed) (name : String) : Bool := ((value.member? name).map toFlag).getD false

def items (value : Parsed) (name : String) : List Parsed :=
  ((value.member? name).map toItems).getD []

def texts (value : Parsed) (name : String) : List String := (value.items name).map toText

/-- Items that are pairs of texts. -/
def textPairs (value : Parsed) (name : String) : List (String × String) :=
  (value.items name).map fun item =>
    match item.toItems with
    | [first, second] => (first.toText, second.toText)
    | _ => ("", "")

def json (value : Parsed) (name : String) : Json :=
  ((value.member? name).bind (Parsed.toJson? 0)).getD .null

/-- A member that a reader takes; `null` is no member. -/
def read? {α : Type} (value : Parsed) (name : String) (reader : Reader α) : Option α :=
  (value.given? name).bind (reader 0)

def readOr {α : Type} (value : Parsed) (name : String) (reader : Reader α) (default : α) : α :=
  (value.read? name reader).getD default

def properties (value : Parsed) (name : String) : Properties :=
  value.readOr name Reader.properties []

mutual

/-- Changes every text in a value; names of members stay. -/
def mapTexts (f : String → String) : Parsed → Parsed
  | .string text => .string (text.map f)
  | .array items => .array (mapItems f items)
  | .object members => .object (mapMembers f members)
  | value => value

def mapItems (f : String → String) : List Parsed → List Parsed
  | [] => []
  | item :: rest => mapTexts f item :: mapItems f rest

def mapMembers (f : String → String) : List (Option String × Parsed) → List (Option String × Parsed)
  | [] => []
  | (name, value) :: rest => (name, mapTexts f value) :: mapMembers f rest

end

end Reconciler.Parsed
