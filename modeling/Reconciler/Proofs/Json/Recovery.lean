import Reconciler.Json.Reading
import Reconciler.Proofs.Json.Spelling

/-!
What was written is read back, part by part: free-form settings, the plain parts of a record, lists
of records, and the parts of a record by their names. Every reader is told where its value stands,
and a value has to fit below the deepest level that is looked at.
-/
namespace Reconciler

namespace Json

mutual

/-- The names of every object in the value are in increasing order, each once. -/
def isOrdered : Json → Bool
  | .array items => areOrdered items
  | .object members => decide ((members.map Prod.fst).Pairwise (· < ·)) && haveOrdered members
  | _ => true

def areOrdered : List Json → Bool
  | [] => true
  | item :: rest => isOrdered item && areOrdered rest

def haveOrdered : List (String × Json) → Bool
  | [] => true
  | (_, value) :: rest => isOrdered value && haveOrdered rest

end

mutual

/-- How many containers are around the innermost part of a value. -/
def nesting : Json → Nat
  | .array items => itemNesting items + 1
  | .object members => memberNesting members + 1
  | _ => 0

def itemNesting : List Json → Nat
  | [] => 0
  | item :: rest => max (nesting item) (itemNesting rest)

def memberNesting : List (String × Json) → Nat
  | [] => 0
  | (_, value) :: rest => max (nesting value) (memberNesting rest)

end

theorem nesting_le_itemNesting {item : Json} {items : List Json} (member : item ∈ items) :
    item.nesting ≤ itemNesting items := by
  induction items with
  | nil => cases member
  | cons first rest ih =>
    rw [itemNesting]
    rcases List.mem_cons.mp member with rfl | later
    · omega
    · have := ih later
      omega

theorem itemNesting_map_le {α : Type} {toJson : α → Json} {values : List α} {bound : Nat}
    (each : ∀ a ∈ values, (toJson a).nesting ≤ bound) :
    itemNesting (values.map toJson) ≤ bound := by
  induction values with
  | nil => exact Nat.zero_le _
  | cons first rest ih =>
    have one := each first (List.mem_cons_self ..)
    have others := ih fun a member => each a (List.mem_cons_of_mem _ member)
    rw [List.map_cons, itemNesting]
    omega

theorem areWhole_of_mem {items : List Json} (each : ∀ item ∈ items, item.isWhole = true) :
    areWhole items = true := by
  induction items with
  | nil => rfl
  | cons first rest ih =>
    rw [areWhole, each first (List.mem_cons_self ..), Bool.true_and]
    exact ih fun item member => each item (List.mem_cons_of_mem _ member)

theorem nesting_le_memberNesting {member : String × Json} {members : List (String × Json)}
    (among : member ∈ members) : member.2.nesting ≤ memberNesting members := by
  induction members with
  | nil => cases among
  | cons first rest ih =>
    rw [memberNesting]
    rcases List.mem_cons.mp among with rfl | later
    · omega
    · have := ih later
      omega

theorem haveWhole_of_mem {members : List (String × Json)}
    (each : ∀ member ∈ members, member.2.isWhole = true) : haveWhole members = true := by
  induction members with
  | nil => rfl
  | cons first rest ih =>
    rw [haveWhole, each first (List.mem_cons_self ..), Bool.true_and]
    exact ih fun member among => each member (List.mem_cons_of_mem _ among)

@[simp] theorem isWhole_ofUInt64 (n : UInt64) : (number (.ofUInt64 n)).isWhole = true := rfl

@[simp] theorem isWhole_string (text : String) : (string text).isWhole = true := rfl

end Json

namespace Properties

/-- A member with a name beyond all others comes last. -/
theorem insert_last {props : Properties} {name : String} (value : Json)
    (beyond : ∀ k ∈ props.map Prod.fst, k < name) :
    insert name value props = props ++ [(name, value)] := by
  induction props with
  | nil => rfl
  | cons first rest ih =>
    obtain ⟨k, v⟩ := first
    have before : k < name := beyond k (by simp)
    have other : name ≠ k := by
      rintro rfl
      exact String.lt_irrefl _ before
    have later : ∀ k ∈ rest.map Prod.fst, k < name := fun k member => beyond k (by simp [member])
    rw [insert, if_neg other, if_neg (String.lt_asymm before), ih later, List.cons_append]

/-- Members that come in increasing order are added behind each other. -/
theorem foldl_insert_ordered (later : List (String × Json)) : ∀ props : Properties,
    ((props ++ later).map Prod.fst).Pairwise (· < ·) →
      later.foldl (fun acc (k, v) => insert k v acc) props = props ++ later := by
  induction later with
  | nil => simp
  | cons first later ih =>
    intro props ordered
    obtain ⟨name, value⟩ := first
    have beyond : ∀ k ∈ props.map Prod.fst, k < name := by
      rw [List.map_append, List.map_cons, List.pairwise_append] at ordered
      exact fun k member => ordered.2.2 k member name (List.mem_cons_self ..)
    have last := ih (props ++ [(name, value)]) (by simpa using ordered)
    simpa [insert_last value beyond] using last

theorem ofMembers_ordered {members : List (String × Json)}
    (ordered : (members.map Prod.fst).Pairwise (· < ·)) : ofMembers members = members :=
  foldl_insert_ordered members [] ordered

end Properties

namespace Parsed

open Json

mutual

theorem toJson?_ofJson : (v : Json) → (depth : Nat) → v.isOrdered = true →
    depth + v.nesting ≤ maxDepth → toJson? depth (ofJson v) = some v
  | .null, _, _, _ | .bool _, _, _, _ | .number _, _, _, _ | .string _, _, _, _ => rfl
  | .array items, depth, ordered, nested => by
    rw [nesting] at nested
    have read := itemsToJson?_ofItems items (depth + 1) ordered (by omega)
    rw [ofJson, toJson?, if_pos (by omega), read]
    rfl
  | .object members, depth, ordered, nested => by
    rw [nesting] at nested
    obtain ⟨names, values⟩ := Bool.and_eq_true_iff.mp ordered
    have read := membersToJson?_ofMembers members (depth + 1) values (by omega)
    have kept := Properties.ofMembers_ordered (of_decide_eq_true names)
    rw [ofJson, toJson?, if_pos (by omega), read]
    simp [kept]

theorem itemsToJson?_ofItems : (items : List Json) → (depth : Nat) → areOrdered items = true →
    depth + itemNesting items ≤ maxDepth → itemsToJson? depth (ofItems items) = some items
  | [], _, _, _ => rfl
  | item :: rest, depth, ordered, nested => by
    rw [itemNesting] at nested
    obtain ⟨first, later⟩ := Bool.and_eq_true_iff.mp ordered
    have read := toJson?_ofJson item depth first (by omega)
    have others := itemsToJson?_ofItems rest depth later (by omega)
    simp [ofItems, itemsToJson?, read, others]

theorem membersToJson?_ofMembers : (members : List (String × Json)) → (depth : Nat) →
    haveOrdered members = true → depth + memberNesting members ≤ maxDepth →
      membersToJson? depth (ofMembers members) = some members
  | [], _, _, _ => rfl
  | (name, value) :: rest, depth, ordered, nested => by
    rw [memberNesting] at nested
    obtain ⟨first, later⟩ := Bool.and_eq_true_iff.mp ordered
    have read := toJson?_ofJson value depth first (by omega)
    have others := membersToJson?_ofMembers rest depth later (by omega)
    simp [ofMembers, membersToJson?, read, others]

end

theorem ofItems_eq_map (items : List Json) : ofItems items = items.map ofJson := by
  induction items with
  | nil => rfl
  | cons item rest ih => rw [ofItems, ih, List.map_cons]

end Parsed

/-- Settings as a cloud takes them: no binary fractions, and names in increasing order at every
level. -/
structure Properties.Plain (props : Properties) : Prop where
  whole : (Json.object props).isWhole = true
  ordered : (Json.object props).isOrdered = true

namespace Reader

variable {α : Type} {read : Reader α} {toJson : α → Json} {depth : Nat}

@[simp] theorem string_ofJson (text : String) :
    string depth (.ofJson (.string text)) = some text := rfl

theorem below_ofJson {bound : Nat} {n : UInt64} (small : n.toNat < bound) :
    below bound depth (.ofJson (.number (.ofUInt64 n))) = some n.toNat := by
  simp [below, Parsed.ofJson, Json.Number.ofUInt64, small]

@[simp] theorem uint64_ofJson (n : UInt64) :
    uint64 depth (.ofJson (.number (.ofUInt64 n))) = some n := by
  simp [uint64, below_ofJson n.toNat_lt_size]

@[simp] theorem uint32_ofJson (n : UInt32) :
    uint32 depth (.ofJson (.number (.ofUInt64 n.toUInt64))) = some n := by
  have small : n.toUInt64.toNat < UInt32.size := n.toNat_lt_size
  simp [uint32, below_ofJson small]

@[simp] theorem uint16_ofJson (n : UInt16) :
    uint16 depth (.ofJson (.number (.ofUInt64 n.toUInt64))) = some n := by
  have small : n.toUInt64.toNat < UInt16.size := n.toNat_lt_size
  simp [uint16, below_ofJson small]

/-- An absent value is told from the others because none of them is written as `null`. -/
theorem nullable_ofJson {value : Option α} (present : ∀ a, toJson a ≠ .null)
    (inner : ∀ a ∈ value, read depth (.ofJson (toJson a)) = some a) :
    read.nullable depth (.ofJson (Json.ofOption toJson value)) = some value := by
  cases value with
  | none => rfl
  | some a =>
    have other : Parsed.ofJson (toJson a) ≠ .null := by
      have := present a
      cases written : toJson a <;> simp_all [Parsed.ofJson]
    rw [Json.ofOption, nullable, inner a rfl]
    · rfl
    · exact fun null => other null

theorem list_ofJson {values : List α} (shallow : depth < Json.maxDepth)
    (each : ∀ a ∈ values, read (depth + 1) (.ofJson (toJson a)) = some a) :
    read.list depth (.ofJson (.array (values.map toJson))) = some values := by
  rw [Parsed.ofJson, list, if_pos shallow, Parsed.ofItems_eq_map, List.map_map]
  induction values with
  | nil => rfl
  | cons a rest ih =>
    have later := ih fun a member => each a (List.mem_cons_of_mem _ member)
    simp [each a (List.mem_cons_self ..), later]

theorem properties_ofJson {props : Properties} (plain : props.Plain)
    (nested : depth + (Json.object props).nesting ≤ Json.maxDepth) :
    properties depth (.ofJson (.object props)) = some props := by
  have read := Parsed.toJson?_ofJson (.object props) depth plain.ordered nested
  rw [Parsed.ofJson] at read ⊢
  simp [properties, read]

end Reader

namespace Parts

/-- Every way to ask for a part leads to one value, which stands inside `level` containers. -/
def Gives (parts : Parts) (name : String) (level : Nat) (value : Parsed) : Prop :=
  ∀ (α : Type) (read : Reader α), parts.required name read = read level value ∧
    (∀ default, parts.withDefault name default read = read level value) ∧
    parts.optional name read = read.nullable level value

theorem gives_of_lookup {parts : Parts} {name : String} {value : Parsed}
    (found : parts.entries.lookup name = some value) : parts.Gives name parts.depth value := by
  intro α read
  simp [required, withDefault, optional, found]

theorem lookup_of_mem {entries : List (String × Parsed)} {entry : String × Parsed}
    (distinct : (entries.map Prod.fst).Nodup) (member : entry ∈ entries) :
    entries.lookup entry.1 = some entry.2 := by
  induction entries with
  | nil => cases member
  | cons first rest ih =>
    rw [List.map_cons, List.nodup_cons] at distinct
    rcases List.mem_cons.mp member with rfl | later
    · exact List.lookup_cons_self
    · have other : entry.1 ≠ first.1 := by
        intro same
        exact distinct.1 (same ▸ List.mem_map_of_mem later)
      rw [List.lookup_cons, beq_eq_false_iff_ne.mpr other]
      exact ih distinct.2 later

theorem named_ofMembers (fields : List (String × Json)) :
    named (Parsed.ofMembers fields) = some (fields.map (Prod.map id Parsed.ofJson)) := by
  induction fields with
  | nil => rfl
  | cons first rest ih => simp [Parsed.ofMembers, named, ih, Prod.map]

/-- A written record gives each of its fields by its name. -/
theorem of?_ofJson {names : List String} {depth : Nat} {fields : List (String × Json)}
    (same : fields.map Prod.fst = names) (distinct : names.Nodup)
    (shallow : depth < Json.maxDepth) :
    ∃ parts, of? names depth (.ofJson (.object fields)) = some parts ∧
      ∀ field ∈ fields, parts.Gives field.1 (depth + 1) (.ofJson field.2) := by
  let entries := fields.map (Prod.map id Parsed.ofJson)
  have once : (entries.map Prod.fst).Nodup := by
    rw [List.map_map]
    exact same ▸ distinct
  have known : ∀ entry ∈ entries, names.contains entry.1 = true := by
    intro entry member
    obtain ⟨field, among, rfl⟩ := List.mem_map.mp member
    simpa [← same] using ⟨field.2, among⟩
  refine ⟨⟨depth + 1, false, entries⟩, ?_, ?_⟩
  · rw [Parsed.ofJson, of?, if_pos shallow, named_ofMembers]
    simp only [Option.bind_eq_bind, Option.bind_some]
    rw [List.filter_eq_self.mpr known, if_pos once]
  · intro field member
    have entry : (field.1, Parsed.ofJson field.2) ∈ entries :=
      List.mem_map.mpr ⟨field, member, rfl⟩
    have found : (Parts.mk (depth + 1) false entries).entries.lookup field.1 =
      some (.ofJson field.2) := lookup_of_mem once entry
    exact gives_of_lookup found

end Parts

end Reconciler
