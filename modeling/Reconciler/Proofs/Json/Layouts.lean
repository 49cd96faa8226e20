import Mathlib.Logic.Relation
import Reconciler.Proofs.Json.Recovery

/-!
Versions of an object. A layout says which members an object knows and what may be left out of it.
Another version of the object may give its members in another order, have members of its own, and
leave out what is as it would be without them; the objects in its lists may do so too. A reader that
tells the parts of an object by their names takes every version for the same, and refuses a known
member that is repeated or null, and a needed one that is missing.
-/
namespace Reconciler

/-- The members of an object as they stand in a text. -/
abbrev Members := List (Option String × Parsed)

/-- A member that an object knows: one that has to be there, one that may be left out for its
default, or a list of objects, left out for none, with the members that each of those knows. -/
inductive Known
  | needed
  | optional (default : Parsed)
  | records (layout : List (String × Known))

def Known.default? : Known → Option Parsed
  | .needed => none
  | .optional default => some default
  | .records _ => some (.array [])

/-- The members that an object knows, by their names. -/
abbrev Layout := List (String × Known)

namespace Layout

abbrev names (layout : Layout) : List String := layout.map Prod.fst

/-- One change between two versions of an object, anywhere among its members or among those of an
object in one of its lists. -/
inductive Step : Layout → Members → Members → Prop
  | permuted {layout : Layout} {ms ms' : Members} (same : ms.Perm ms') : Step layout ms ms'
  | inserted {layout : Layout} {name : String} (unknown : name ∉ layout.names) (value : Parsed)
      (before after : Members) :
      Step layout (before ++ after) (before ++ (some name, value) :: after)
  | omitted {layout : Layout} {name : String} {known : Known} {value : Parsed}
      (found : layout.lookup name = some known) (default : known.default? = some value)
      (before after : Members) :
      Step layout (before ++ (some name, value) :: after) (before ++ after)
  | inside {layout inner : Layout} {name : String}
      (found : layout.lookup name = some (.records inner)) {ms ms' : Members}
      (step : Step inner ms ms') (items more : List Parsed) (before after : Members) :
      Step layout (before ++ (some name, .array (items ++ .object ms :: more)) :: after)
        (before ++ (some name, .array (items ++ .object ms' :: more)) :: after)

/-- The second object is another version of the first one. -/
def Restates (layout : Layout) : Members → Members → Prop := Relation.ReflTransGen layout.Step

/-- What no version of an object has, nor an object in one of its lists. -/
inductive Broken : Layout → Members → Prop
  | repeated {layout : Layout} {name : String} (known : name ∈ layout.names)
      {first second : Parsed} {ms : Members}
      (twice : [(some name, first), (some name, second)].Sublist ms) : Broken layout ms
  | missing {layout : Layout} {name : String} (needed : layout.lookup name = some .needed)
      {ms : Members} (absent : ∀ value, (some name, value) ∉ ms) : Broken layout ms
  | null {layout : Layout} {name : String} (known : name ∈ layout.names) {ms : Members}
      (given : (some name, .null) ∈ ms) : Broken layout ms
  | inside {layout inner : Layout} {name : String}
      (found : layout.lookup name = some (.records inner)) {ms inside : Members}
      {items : List Parsed} (given : (some name, .array items) ∈ ms)
      (record : .object inside ∈ items) (broken : Broken inner inside) : Broken layout ms

variable {layout : Layout} {name : String} {known : Known}

theorem mem_of_lookup (found : layout.lookup name = some known) : (name, known) ∈ layout := by
  obtain ⟨before, after, rfl, -⟩ := List.lookup_eq_some_iff.mp found
  simp

theorem mem_names (found : layout.lookup name = some known) : name ∈ layout.names :=
  List.mem_map.mpr ⟨(name, known), mem_of_lookup found, rfl⟩

end Layout

namespace Parts

section Lookup

variable {entries entries' : List (String × Parsed)} {name : String} {value : Parsed}

theorem lookup_eq_some (distinct : (entries.map Prod.fst).Nodup) :
    entries.lookup name = some value ↔ (name, value) ∈ entries := by
  constructor
  · intro found
    obtain ⟨before, after, rfl, -⟩ := List.lookup_eq_some_iff.mp found
    exact List.mem_append_right before (List.mem_cons_self ..)
  · exact fun member => lookup_of_mem distinct member

theorem lookup_perm (distinct : (entries.map Prod.fst).Nodup) (same : entries.Perm entries')
    (name : String) : entries'.lookup name = entries.lookup name := by
  have distinct' : (entries'.map Prod.fst).Nodup := (same.map Prod.fst).nodup_iff.mp distinct
  refine Option.ext fun value => ?_
  rw [lookup_eq_some distinct, lookup_eq_some distinct', same.mem_iff]

variable {before after : List (String × Parsed)}

theorem nodup_middle : ((before ++ (name, value) :: after).map Prod.fst).Nodup ↔
    name ∉ (before ++ after).map Prod.fst ∧ ((before ++ after).map Prod.fst).Nodup := by
  rw [(List.perm_middle.map Prod.fst).nodup_iff, List.map_cons, List.nodup_cons]

/-- An entry in the middle is found by its name, and does not matter for other names. -/
theorem lookup_middle (distinct : ((before ++ (name, value) :: after).map Prod.fst).Nodup)
    (other : String) : (before ++ (name, value) :: after).lookup other =
      if other = name then some value else (before ++ after).lookup other := by
  rw [← lookup_perm distinct List.perm_middle, List.lookup_cons]
  by_cases same : other = name
  · simp [same]
  · simp [same, beq_eq_false_iff_ne.mpr same]

theorem lookup_without (distinct : ((before ++ (name, value) :: after).map Prod.fst).Nodup) :
    (before ++ after).lookup name = none := by
  rw [List.lookup_eq_none_iff]
  intro entry member
  have other : entry.1 ≠ name := fun same =>
    (nodup_middle.mp distinct).1 (List.mem_map.mpr ⟨entry, member, same⟩)
  simpa using other.symm

end Lookup

/-- The members of an object, each under a name that can be read. -/
def spelled (entries : List (String × Parsed)) : Members :=
  entries.map fun entry => (some entry.1, entry.2)

/-- The entries under known names. -/
def known (names : List String) (entries : List (String × Parsed)) : List (String × Parsed) :=
  entries.filter fun (name, _) => names.contains name

section Naming

variable {names : List String} {entries : List (String × Parsed)} {ms : Members} {name : String}
  {value : Parsed}

theorem named_eq_some_iff : named ms = some entries ↔ ms = spelled entries := by
  induction ms generalizing entries with
  | nil => cases entries <;> simp [named, spelled]
  | cons first rest ih =>
    obtain ⟨name, value⟩ := first
    cases entries with
    | nil => cases name <;> simp [named, spelled, Option.bind_eq_some_iff]
    | cons entry entries =>
      cases name <;> simp_all [named, spelled, Option.bind_eq_some_iff, Prod.ext_iff]
      exact and_comm

theorem of?_object_iff {depth : Nat} {parts : Parts} :
    of? names depth (.object ms) = some parts ↔ depth < Json.maxDepth ∧ ∃ entries,
      ms = spelled entries ∧ ((known names entries).map Prod.fst).Nodup ∧
        parts = ⟨depth + 1, false, known names entries⟩ := by
  rw [of?]
  split
  case isFalse deep => simp [deep]
  case isTrue shallow =>
    simp only [shallow, true_and, Option.bind_eq_bind, Option.bind_eq_some_iff, named_eq_some_iff]
    refine exists_congr fun entries => and_congr_right fun _ => ?_
    change (if ((known names entries).map Prod.fst).Nodup then _ else _) = _ ↔ _
    split <;> simp_all [known, eq_comm]

theorem spelled_perm (same : (spelled entries).Perm ms) :
    ∃ entries', ms = spelled entries' ∧ entries.Perm entries' := by
  generalize start : spelled entries = ms' at same
  induction same generalizing entries with
  | nil =>
    obtain rfl := List.map_eq_nil_iff.mp start
    exact ⟨[], rfl, .nil⟩
  | cons member _ ih =>
    obtain ⟨entry, rest, rfl, rfl, rfl⟩ := List.map_eq_cons_iff.mp start
    obtain ⟨rest', rfl, same⟩ := ih rfl
    exact ⟨entry :: rest', rfl, same.cons entry⟩
  | swap first second _ =>
    obtain ⟨entry, rest, rfl, rfl, tail⟩ := List.map_eq_cons_iff.mp start
    obtain ⟨entry', rest, rfl, rfl, rfl⟩ := List.map_eq_cons_iff.mp tail
    exact ⟨entry' :: entry :: rest, rfl, .swap ..⟩
  | trans _ _ ih ih' =>
    obtain ⟨middle, rfl, first⟩ := ih start
    obtain ⟨last, rfl, second⟩ := ih' rfl
    exact ⟨last, rfl, first.trans second⟩

theorem spelled_middle {before after : Members}
    (cut : before ++ (some name, value) :: after = spelled entries) :
    ∃ first last, before = spelled first ∧ after = spelled last ∧
      entries = first ++ (name, value) :: last := by
  obtain ⟨first, rest, rfl, rfl, tail⟩ := List.map_eq_append_iff.mp cut.symm
  obtain ⟨⟨_, _⟩, last, rfl, same, rfl⟩ := List.map_eq_cons_iff.mp tail
  cases same
  exact ⟨first, last, rfl, rfl, rfl⟩

theorem known_middle (among : name ∈ names) (value : Parsed)
    (first last : List (String × Parsed)) :
    known names (first ++ (name, value) :: last) =
      known names first ++ (name, value) :: known names last := by
  simp [known, among]

/-- A member under a known name is found by it. -/
theorem lookup_known (distinct : ((known names entries).map Prod.fst).Nodup)
    (among : name ∈ names) :
    (known names entries).lookup name = some value ↔ (some name, value) ∈ spelled entries := by
  rw [lookup_eq_some distinct]
  simp [known, spelled, among]

end Naming

end Parts

section Steps

/-- What is found under a known name after a step, where something was found before. -/
inductive Known.Turns : Known → Option Parsed → Option Parsed → Prop
  | same (known : Known) (found : Option Parsed) : Turns known found found
  | omitted {known : Known} {value : Parsed} (default : known.default? = some value) :
      Turns known (some value) none
  | inside {inner : Layout} {ms ms' : Members} (step : inner.Step ms ms')
      (items more : List Parsed) :
      Turns (.records inner) (some (.array (items ++ .object ms :: more)))
        (some (.array (items ++ .object ms' :: more)))

/-- The parts of an object before and after a step. -/
structure Layout.Alike (layout : Layout) (parts parts' : Parts) : Prop where
  depth : parts'.depth = parts.depth
  turns : ∀ {name known}, layout.lookup name = some known →
    known.Turns (parts.entries.lookup name) (parts'.entries.lookup name)

variable {layout : Layout} {ms ms' : Members} {depth : Nat} {parts : Parts}

/-- What stood in the middle turns as it may, and all else is found as before. -/
theorem Layout.turns_middle {name : String} {known : Known}
    (found : layout.lookup name = some known) {first last after : List (String × Parsed)}
    {value : Parsed} (distinct : ((first ++ (name, value) :: last).map Prod.fst).Nodup)
    (turn : known.Turns (some value) (after.lookup name))
    (others : ∀ other, other ≠ name → after.lookup other = (first ++ last).lookup other)
    {other : String} {known' : Known} (found' : layout.lookup other = some known') :
    known'.Turns ((first ++ (name, value) :: last).lookup other) (after.lookup other) := by
  rw [Parts.lookup_middle distinct]
  split
  case isTrue same =>
    obtain rfl := same
    rw [found] at found'
    cases found'
    exact turn
  case isFalse different =>
    rw [others other different]
    exact .same known' _

/-- The parts can still be told after a step. -/
theorem Layout.Step.still_told (step : layout.Step ms ms')
    (told : Parts.of? layout.names depth (.object ms) = some parts) :
    ∃ parts', Parts.of? layout.names depth (.object ms') = some parts' ∧
      layout.Alike parts parts' := by
  obtain ⟨shallow, entries, spelled, distinct, rfl⟩ := Parts.of?_object_iff.mp told
  cases step with
  | permuted same =>
    obtain ⟨entries', spelled', same⟩ := Parts.spelled_perm (spelled ▸ same)
    have same : (Parts.known layout.names entries).Perm (Parts.known layout.names entries') :=
      same.filter _
    have distinct' := (same.map Prod.fst).nodup_iff.mp distinct
    refine ⟨_, Parts.of?_object_iff.mpr ⟨shallow, entries', spelled', distinct', rfl⟩, rfl, ?_⟩
    intro name known _
    rw [Parts.lookup_perm distinct same name]
    exact .same known _
  | @inserted _ name unknown value before after =>
    obtain ⟨first, last, rfl, rfl, rfl⟩ := List.map_eq_append_iff.mp spelled.symm
    have passed : Parts.known layout.names (first ++ (name, value) :: last) =
        Parts.known layout.names (first ++ last) := by
      simp [Parts.known, unknown]
    refine ⟨_, Parts.of?_object_iff.mpr ⟨shallow, first ++ (name, value) :: last,
      by simp [Parts.spelled], passed ▸ distinct, rfl⟩, rfl, ?_⟩
    intro other known _
    rw [passed]
    exact .same known _
  | @omitted _ name known value found default before after =>
    obtain ⟨first, last, rfl, rfl, rfl⟩ := Parts.spelled_middle spelled
    have without : Parts.known layout.names (first ++ last) =
        Parts.known layout.names first ++ Parts.known layout.names last := List.filter_append ..
    rw [Parts.known_middle (mem_names found)] at distinct ⊢
    refine ⟨_, Parts.of?_object_iff.mpr ⟨shallow, first ++ last, by simp [Parts.spelled],
      without ▸ (Parts.nodup_middle.mp distinct).2, rfl⟩, rfl, ?_⟩
    dsimp only
    rw [without]
    refine turns_middle found distinct ?_ fun _ _ => rfl
    rw [Parts.lookup_without distinct]
    exact .omitted default
  | @inside _ inner name found ms ms' step items more before after =>
    obtain ⟨first, last, rfl, rfl, rfl⟩ := Parts.spelled_middle spelled
    let value : Parsed := .array (items ++ .object ms' :: more)
    have kept := Parts.known_middle (mem_names found) value first last
    rw [Parts.known_middle (mem_names found)] at distinct ⊢
    have distinct' : ((Parts.known layout.names first ++
        (name, value) :: Parts.known layout.names last).map Prod.fst).Nodup :=
      Parts.nodup_middle.mpr (Parts.nodup_middle.mp distinct)
    refine ⟨_, Parts.of?_object_iff.mpr ⟨shallow, first ++ (name, value) :: last,
      by simp [Parts.spelled, value], kept ▸ distinct', rfl⟩, rfl, ?_⟩
    dsimp only
    rw [kept]
    refine turns_middle found distinct ?_ fun other different => ?_
    · rw [Parts.lookup_middle distinct', if_pos rfl]
      exact .inside step items more
    · rw [Parts.lookup_middle distinct', if_neg different]

end Steps

section Lists

variable {α β : Type} {f : β → Option α} {xs : List β} {as : List α}

theorem exists_of_mapM (read : xs.mapM f = some as) {x : β} (member : x ∈ xs) :
    ∃ a, f x = some a := by
  induction xs generalizing as with
  | nil => cases member
  | cons first rest ih =>
    simp only [List.mapM_cons, Option.bind_eq_bind, Option.bind_eq_some_iff] at read
    obtain ⟨a, head, bs, tail, -⟩ := read
    rcases List.mem_cons.mp member with rfl | later
    · exact ⟨a, head⟩
    · exact ih tail later

theorem mapM_swap {x y : β} {front back : List β} (same : ∀ a, f x = some a → f y = some a)
    (read : (front ++ x :: back).mapM f = some as) : (front ++ y :: back).mapM f = some as := by
  obtain ⟨a, found⟩ := exists_of_mapM read (List.mem_append_right front (List.mem_cons_self ..))
  simpa only [List.mapM_append, List.mapM_cons, found, same a found] using read

end Lists

theorem Reader.eq_nil_of_list {α : Type} {read : Reader α} {depth : Nat} {as : List α}
    (given : read.list depth (.array []) = some as) : as = [] := by
  simp only [list] at given
  split at given
  · cases given
    rfl
  · cases given

theorem Reader.eq_nil_of_properties {depth : Nat} {props : Properties}
    (given : properties depth (.object []) = some props) : props = [] := by
  simp only [properties, Parsed.toJson?, Parsed.membersToJson?] at given
  by_cases shallow : depth < Json.maxDepth
  · rw [if_pos shallow] at given
    cases given
    rfl
  · rw [if_neg shallow] at given
    cases given

/-- A reader of objects does not tell versions from each other, and refuses what no version has. -/
structure Reader.Follows {α : Type} (read : Reader α) (layout : Layout) : Prop where
  keeps : ∀ {depth ms ms' a}, layout.Step ms ms' → read depth (.object ms) = some a →
    read depth (.object ms') = some a
  refuses : ∀ {depth ms}, layout.Broken ms → read depth (.object ms) = none

namespace Layout.Alike

variable {layout : Layout} {parts parts' : Parts} {name : String} {α : Type} {read : Reader α}

theorem required {a : α} (alike : layout.Alike parts parts')
    (needed : layout.lookup name = some .needed) (given : parts.required name read = some a) :
    parts'.required name read = some a := by
  have turns := alike.turns needed
  rw [Parts.required] at given ⊢
  rw [alike.depth]
  generalize parts.entries.lookup name = before at *
  generalize parts'.entries.lookup name = after at *
  cases turns with
  | same => exact given
  | omitted default => cases default

theorem withDefault {value : Parsed} {default a : α} (alike : layout.Alike parts parts')
    (optional : layout.lookup name = some (.optional value))
    (reads : ∀ depth a, read depth value = some a → a = default)
    (given : parts.withDefault name default read = some a) :
    parts'.withDefault name default read = some a := by
  have turns := alike.turns optional
  rw [Parts.withDefault] at given ⊢
  rw [alike.depth]
  generalize parts.entries.lookup name = before at *
  generalize parts'.entries.lookup name = after at *
  cases turns with
  | same => exact given
  | omitted default =>
    cases default
    rw [reads _ _ given]

/-- A list of objects is read alike after a step in one of them. -/
theorem records {inner : Layout} {as : List α} (alike : layout.Alike parts parts')
    (listed : layout.lookup name = some (.records inner)) (follows : read.Follows inner)
    (given : parts.withDefault name [] read.list = some as) :
    parts'.withDefault name [] read.list = some as := by
  have turns := alike.turns listed
  rw [Parts.withDefault] at given ⊢
  rw [alike.depth]
  generalize parts.entries.lookup name = before at *
  generalize parts'.entries.lookup name = after at *
  cases turns with
  | same => exact given
  | omitted default =>
    cases default
    rw [Reader.eq_nil_of_list given]
  | inside step items more =>
    simp only [Reader.list] at given ⊢
    split at given
    case isFalse => cases given
    case isTrue shallow =>
      rw [if_pos shallow]
      exact mapM_swap (fun _ => follows.keeps step) given

end Layout.Alike

namespace Parts

/-- A known member was read from what stands under its name. -/
def Answers (parts : Parts) (name : String) : Known → Prop
  | .needed => parts.entries.lookup name ≠ none ∧ parts.entries.lookup name ≠ some .null
  | .optional _ => parts.entries.lookup name ≠ some .null
  | .records inner => parts.entries.lookup name ≠ some .null ∧
    ∀ items ms, parts.entries.lookup name = some (.array items) → .object ms ∈ items →
      ¬Layout.Broken inner ms

variable {parts : Parts} {name : String} {α : Type} {read : Reader α}

theorem answers_required {a : α} (given : parts.required name read = some a)
    (refuses : ∀ depth, read depth .null = none) : parts.Answers name .needed := by
  obtain ⟨value, found, read⟩ := Option.bind_eq_some_iff.mp given
  refine ⟨by simp [found], ?_⟩
  rintro null
  rw [null] at found
  cases found
  rw [refuses] at read
  cases read

theorem ne_null_of_withDefault {default a : α}
    (given : parts.withDefault name default read = some a)
    (refuses : ∀ depth, read depth .null = none) : parts.entries.lookup name ≠ some .null := by
  intro null
  simp [withDefault, null, refuses] at given

theorem answers_records {inner : Layout} {as : List α} (follows : read.Follows inner)
    (given : parts.withDefault name [] read.list = some as) :
    parts.Answers name (.records inner) := by
  refine ⟨ne_null_of_withDefault given fun _ => rfl, fun items ms found member broken => ?_⟩
  simp only [withDefault, found, Reader.list] at given
  split at given
  case isFalse => cases given
  case isTrue =>
    obtain ⟨a, read⟩ := exists_of_mapM given member
    rw [follows.refuses broken] at read
    cases read

theorem Answers.ne_null {known : Known} (answers : parts.Answers name known) :
    parts.entries.lookup name ≠ some .null := by
  cases known with
  | needed => exact answers.2
  | optional => exact answers
  | records => exact answers.1

/-- What no version of an object has leaves it without its parts, or with one that does not
answer. -/
theorem not_answers {layout : Layout} {ms : Members} {depth : Nat} (broken : layout.Broken ms)
    (told : of? layout.names depth (.object ms) = some parts) :
    ∃ member ∈ layout, ¬parts.Answers member.1 member.2 := by
  obtain ⟨-, entries, rfl, distinct, rfl⟩ := of?_object_iff.mp told
  cases broken with
  | @repeated _ name among first second _ twice =>
    obtain ⟨both, sub, same⟩ := List.sublist_map_iff.mp twice
    obtain ⟨⟨_, _⟩, rest, rfl, head, tail⟩ := List.map_eq_cons_iff.mp same.symm
    obtain ⟨⟨_, _⟩, rest, rfl, head', tail⟩ := List.map_eq_cons_iff.mp tail
    obtain rfl := List.map_eq_nil_iff.mp tail
    cases head
    cases head'
    have names := distinct.sublist ((sub.filter fun entry => layout.names.contains entry.1).map _)
    simp [among] at names
  | @missing _ name needed _ absent =>
    refine ⟨(name, .needed), Layout.mem_of_lookup needed, fun answers => ?_⟩
    obtain ⟨value, found⟩ := Option.ne_none_iff_exists'.mp answers.1
    exact absent value ((lookup_known distinct (Layout.mem_names needed)).mp found)
  | @null _ name among _ given =>
    obtain ⟨member, listed, rfl⟩ := List.mem_map.mp among
    exact ⟨member, listed, fun answers =>
      answers.ne_null ((lookup_known distinct among).mpr given)⟩
  | @inside _ inner name found _ inside items given record broken =>
    refine ⟨(name, .records inner), Layout.mem_of_lookup found, fun answers => ?_⟩
    have there := (lookup_known distinct (Layout.mem_names found)).mpr given
    exact answers.2 items inside there record broken

end Parts

/-- A reader that makes something of the parts of an object, after a step of the same as before, and
of no part that does not answer. -/
theorem Reader.Follows.ofParts {α : Type} {layout : Layout} {read : Reader α}
    {make : Parts → Option α}
    (reads : ∀ depth value, read depth value = (Parts.of? layout.names depth value).bind make)
    (keeps : ∀ {parts parts' a}, layout.Alike parts parts' → make parts = some a →
      make parts' = some a)
    (answers : ∀ {parts a}, make parts = some a →
      ∀ member ∈ layout, parts.Answers member.1 member.2) : read.Follows layout where
  keeps {depth ms ms' a} step given := by
    rw [reads] at given ⊢
    obtain ⟨parts, told, made⟩ := Option.bind_eq_some_iff.mp given
    obtain ⟨parts', told', alike⟩ := step.still_told told
    exact Option.bind_eq_some_iff.mpr ⟨parts', told', keeps alike made⟩
  refuses {depth ms} broken := by
    rw [reads, Option.bind_eq_none_iff]
    intro parts told
    obtain ⟨member, listed, silent⟩ := Parts.not_answers broken told
    cases made : make parts with
    | none => rfl
    | some a => exact absurd (answers made member listed) silent

theorem Reader.Follows.restates {α : Type} {layout : Layout} {read : Reader α} {a : α}
    (follows : read.Follows layout) {ms ms' : Members} (restates : layout.Restates ms ms')
    {depth : Nat} (given : read depth (.object ms) = some a) :
    read depth (.object ms') = some a := by
  induction restates with
  | refl => exact given
  | tail _ step ih => exact follows.keeps step ih

end Reconciler
