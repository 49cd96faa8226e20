import Reconciler.Json.Number

/-!
JSON values. `Json` is a value all of whose parts can be used; `Parsed` is a value as it stands in a
text, where a number may be too large and a string may name half a surrogate pair, which matters
only to a reader that looks at it.

Covers `Value`, `Map` and their comparison in the JSON library that the engine uses.
-/
namespace Reconciler

inductive Json
  | null
  | bool (value : Bool)
  | number (value : Json.Number)
  | string (value : String)
  | array (items : List Json)
  | object (members : List (String × Json))
  deriving Inhabited

/-- Free-form settings handed through to the cloud: names in increasing order, each once. -/
abbrev Properties := List (String × Json)

namespace Json

mutual

/-- Equality of values: numbers by `Number.same`, members in order. -/
def same : Json → Json → Bool
  | .null, .null => true
  | .bool a, .bool b => a == b
  | .number a, .number b => a.same b
  | .string a, .string b => a == b
  | .array a, .array b => sameItems a b
  | .object a, .object b => sameMembers a b
  | _, _ => false

def sameItems : List Json → List Json → Bool
  | [], [] => true
  | a :: as, b :: bs => same a b && sameItems as bs
  | _, _ => false

def sameMembers : List (String × Json) → List (String × Json) → Bool
  | [], [] => true
  | (k, a) :: as, (l, b) :: bs => k == l && same a b && sameMembers as bs
  | _, _ => false

end

mutual

theorem same_self : (value : Json) → same value value = true
  | .null | .bool _ | .string _ => by simp [same]
  | .number n => Number.same_refl n
  | .array items => sameItems_self items
  | .object members => sameMembers_self members

theorem sameItems_self : (items : List Json) → sameItems items items = true
  | [] => by rw [sameItems]
  | item :: rest => by simp [sameItems, same_self item, sameItems_self rest]

theorem sameMembers_self : (members : List (String × Json)) → sameMembers members members = true
  | [] => by rw [sameMembers]
  | (name, value) :: rest => by simp [sameMembers, same_self value, sameMembers_self rest]

end

instance : BEq Json := ⟨same⟩

instance : Coe String Json := ⟨.string⟩
instance : Coe Bool Json := ⟨.bool⟩
instance : Coe UInt64 Json := ⟨fun n => .number (.ofUInt64 n)⟩
instance : Coe UInt32 Json := ⟨fun n => .number (.ofUInt64 n.toUInt64)⟩
instance : Coe UInt16 Json := ⟨fun n => .number (.ofUInt64 n.toUInt64)⟩

/-- An absent value is written as `null`. -/
def ofOption {α : Type} (f : α → Json) : Option α → Json
  | none => .null
  | some a => f a

def strings (texts : List String) : Json := .array (texts.map .string)

def list {α : Type} (f : α → Json) (values : List α) : Json := .array (values.map f)

/-- A count; one that does not fit 64 bits is not written. -/
def ofNat (n : Nat) : Json := ofOption .number (Number.ofInt? n)

mutual

/-- Changes every text in a value; names of members stay. -/
def mapTexts (f : String → String) : Json → Json
  | .string text => .string (f text)
  | .array items => .array (mapItems f items)
  | .object members => .object (mapMembers f members)
  | value => value

def mapItems (f : String → String) : List Json → List Json
  | [] => []
  | item :: rest => mapTexts f item :: mapItems f rest

def mapMembers (f : String → String) : List (String × Json) → List (String × Json)
  | [] => []
  | (name, value) :: rest => (name, mapTexts f value) :: mapMembers f rest

end

end Json

namespace Properties

/-- Puts a member in its place; an older member of the same name is replaced. -/
def insert (name : String) (value : Json) : Properties → Properties
  | [] => [(name, value)]
  | (k, v) :: rest =>
    if name = k then (name, value) :: rest
    else if name < k then (name, value) :: (k, v) :: rest
    else (k, v) :: insert name value rest

/-- Of several members with one name the last counts. -/
def ofMembers (members : List (String × Json)) : Properties :=
  members.foldl (fun acc (k, v) => insert k v acc) []

end Properties

/-- A value as it stands in a text. -/
inductive Parsed
  | null
  | bool (value : Bool)
  | number (value : Option Json.Number)
  | string (value : Option String)
  | array (items : List Parsed)
  | object (members : List (Option String × Parsed))
  deriving Inhabited

end Reconciler
