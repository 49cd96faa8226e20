import Reconciler.Proofs.Json.Extents
import Reconciler.Proofs.Json.Spelling

/-!
Texts in pieces. A text that the parser takes for an array or an object is cut into the texts of its
items or members, with commas between them; and whatever such texts are put together in that way,
the parser takes them for just the array or the object of what they stand for. So the items and
members of a text can be put in another order, left out or added to, each with the text it has.
-/
namespace Reconciler.Json

variable {cs rest : List Char}

section Blanks

/-- Blanks between the parts of a text. -/
abbrev Blanks := { cs : List Char // ∀ c ∈ cs, isBlank c = true }

def noBlanks : Blanks := ⟨[], List.forall_mem_nil _⟩

variable (blanks : Blanks)

theorem skipBlanks_blanks (cs : List Char) : skipBlanks (blanks.1 ++ cs) = skipBlanks cs :=
  List.dropWhile_append_of_pos blanks.2

theorem skipBlanks_cut (cs : List Char) : ∃ (before : Blanks) (tail : List Char),
    cs = before.1 ++ tail ∧ skipBlanks cs = tail :=
  ⟨⟨cs.takeWhile isBlank, List.all_eq_true.mp List.all_takeWhile⟩, cs.dropWhile isBlank,
    List.takeWhile_append_dropWhile.symm, rfl⟩

theorem value_blanks (fuel : Nat) (cs : List Char) :
    value fuel (blanks.1 ++ cs) = value fuel cs := by
  obtain ⟨blanks, blank⟩ := blanks
  induction blanks with
  | nil => rfl
  | cons c blanks ih =>
    rw [List.cons_append, value_blank (blank c (List.mem_cons_self ..))]
    exact ih fun d member => blank d (List.mem_cons_of_mem c member)

theorem Ended.behind {rest : List Char} (ended : Ended rest) : Ended (blanks.1 ++ rest) := by
  refine head_append (fun c first => ?_) ended
  have blank := blanks.2 c (List.mem_of_mem_head? first)
  simp only [isBlank, Bool.or_eq_true, beq_iff_eq] at blank
  obtain ((rfl | rfl) | rfl) | rfl := blank <;> decide

end Blanks

section Values

/-- The parser takes the text for the value, whatever comes behind it that does not go on with a
number. -/
def IsText (v : Parsed) (text : List Char) : Prop :=
  ∀ next, Ended next → ∀ fuel, 2 * (text ++ next).length ≤ fuel →
    value fuel (text ++ next) = some (v, next)

/-- An item as it stands in a text, with the blanks behind it. -/
structure ItemText where
  value : Parsed
  text : List Char
  isText : IsText value text
  after : Blanks

def ItemText.chars (item : ItemText) : List Char := item.text ++ item.after.1

/-- A member as it stands in a text, with the blanks around it. -/
structure MemberText where
  before : Blanks
  name : Option String
  /-- The name as it is written, behind its opening quote. -/
  literal : List Char
  named : Takes stringTail literal name Anything
  middle : Blanks
  item : ItemText

namespace MemberText

def chars (member : MemberText) : List Char :=
  member.before.1 ++ '"' :: (member.literal ++ (member.middle.1 ++ ':' :: member.item.chars))

def entry (member : MemberText) : Option String × Parsed := (member.name, member.item.value)

end MemberText

/-- Texts with commas between them. -/
def joined (texts : List (List Char)) : List Char := [','].intercalate texts

@[simp] theorem joined_one (text : List Char) : joined [text] = text := List.intercalate_singleton

@[simp] theorem joined_more (text second : List Char) (others : List (List Char)) :
    joined (text :: second :: others) = text ++ ',' :: joined (second :: others) := by
  simp [joined, List.intercalate_cons_cons]

structure ArrayText where
  before : Blanks
  items : List ItemText
  closing : Blanks

namespace ArrayText

def chars (array : ArrayText) : List Char :=
  array.before.1 ++ '[' :: (joined (array.items.map ItemText.chars) ++ (array.closing.1 ++ [']']))

def values (array : ArrayText) : List Parsed := array.items.map ItemText.value

end ArrayText

structure ObjectText where
  before : Blanks
  members : List MemberText
  closing : Blanks

namespace ObjectText

def chars (object : ObjectText) : List Char :=
  object.before.1 ++
    '{' :: (joined (object.members.map MemberText.chars) ++ (object.closing.1 ++ ['}']))

def entries (object : ObjectText) : List (Option String × Parsed) :=
  object.members.map MemberText.entry

end ObjectText

end Values

section Pasting

theorem value_opens {fuel : Nat} {v : Parsed} (read : value fuel cs = some (v, rest)) :
    ∃ c tail, skipBlanks cs = c :: tail ∧ c ≠ ']' := by
  cases fuel with
  | zero => cases read
  | succ fuel =>
    rw [value] at read
    split at read
    case h_7 =>
      simp only [Option.bind_eq_bind, Option.bind_eq_some_iff] at read
      obtain ⟨⟨parts, left⟩, number, -⟩ := read
      obtain ⟨c, text, opening, found, -⟩ := literal_cut number
      exact ⟨c, _, found, (opens_number opening).2.1⟩
    all_goals
      rename_i found
      exact ⟨_, _, found, by decide⟩

section

variable {fuel : Nat} {next left : List Char}

theorem ItemText.reads (item : ItemText) (ended : Ended next)
    (enough : 2 * (item.chars ++ next).length ≤ fuel) :
    Json.value fuel (item.chars ++ next) = some (item.value, item.after.1 ++ next) := by
  rw [chars, List.append_assoc] at enough ⊢
  exact item.isText _ (ended.behind item.after) fuel enough

/-- Items with commas between them, up to the closing bracket. -/
theorem items_paste (first : ItemText) (others : List ItemText) (closing : Blanks)
    (next : List Char)
    (enough : 2 * (joined ((first :: others).map ItemText.chars) ++
      (closing.1 ++ ']' :: next)).length < fuel) :
    items fuel (joined ((first :: others).map ItemText.chars) ++ (closing.1 ++ ']' :: next)) =
      some ((first :: others).map ItemText.value, next) := by
  obtain ⟨fuel, rfl⟩ := Nat.exists_eq_add_one_of_ne_zero (Nat.ne_zero_of_lt enough)
  induction others generalizing first fuel with
  | nil =>
    have closed : skipBlanks (']' :: next) = ']' :: next := skipBlanks_other (by decide)
    simp only [List.map_cons, List.map_nil, joined_one] at enough ⊢
    rw [items, first.reads ((Ended.bracket next).behind closing) (by omega)]
    simp [skipBlanks_blanks, closed]
  | cons second others ih =>
    let left := joined ((second :: others).map ItemText.chars) ++ (closing.1 ++ ']' :: next)
    have cut : joined ((first :: second :: others).map ItemText.chars) ++
        (closing.1 ++ ']' :: next) = first.chars ++ ',' :: left := by simp [left]
    have comma : skipBlanks (',' :: left) = ',' :: left := skipBlanks_other (by decide)
    rw [cut] at enough ⊢
    have shorter : 2 * left.length < fuel := by
      simp only [List.length_append, List.length_cons] at enough
      omega
    obtain ⟨fuel, rfl⟩ := Nat.exists_eq_add_one_of_ne_zero (Nat.ne_zero_of_lt shorter)
    have later : items (fuel + 1) left = _ := ih second fuel shorter
    rw [items, first.reads (Ended.comma left) (by omega)]
    simp [skipBlanks_blanks, comma, later]

theorem MemberText.chars_append (member : MemberText) (next : List Char) : member.chars ++ next =
    member.before.1 ++
      '"' :: (member.literal ++ (member.middle.1 ++ ':' :: (member.item.chars ++ next))) := by
  simp [chars]

theorem MemberText.reads (member : MemberText) (ended : Ended next)
    (enough : 2 * (member.chars ++ next).length ≤ fuel) :
    Json.value fuel (member.item.chars ++ next) =
      some (member.item.value, member.item.after.1 ++ next) := by
  refine member.item.reads ended ?_
  simp only [chars_append, List.length_append, List.length_cons] at enough ⊢
  omega

theorem members_last (member : MemberText) (ended : Ended next)
    (enough : 2 * (member.chars ++ next).length ≤ fuel) (closed : skipBlanks next = '}' :: left) :
    members (fuel + 1) (member.chars ++ next) = some ([member.entry], left) := by
  have read := member.reads ended enough
  have colon (cs : List Char) : skipBlanks (':' :: cs) = ':' :: cs := skipBlanks_other (by decide)
  rw [member.chars_append, members, skipBlanks_blanks, skipBlanks_other (by decide)]
  simp [member.named _ trivial, skipBlanks_blanks, colon, read, closed, MemberText.entry]

theorem members_more (member : MemberText) (ended : Ended next)
    (enough : 2 * (member.chars ++ next).length ≤ fuel) (comma : skipBlanks next = ',' :: left)
    {ms : List (Option String × Parsed)} (later : members fuel left = some (ms, rest)) :
    members (fuel + 1) (member.chars ++ next) = some (member.entry :: ms, rest) := by
  have read := member.reads ended enough
  have colon (cs : List Char) : skipBlanks (':' :: cs) = ':' :: cs := skipBlanks_other (by decide)
  rw [member.chars_append, members, skipBlanks_blanks, skipBlanks_other (by decide)]
  simp [member.named _ trivial, skipBlanks_blanks, colon, read, comma, later, MemberText.entry]

/-- Members with commas between them, up to the closing brace. -/
theorem members_paste (first : MemberText) (others : List MemberText) (closing : Blanks)
    (next : List Char)
    (enough : 2 * (joined ((first :: others).map MemberText.chars) ++
      (closing.1 ++ '}' :: next)).length < fuel) :
    members fuel (joined ((first :: others).map MemberText.chars) ++ (closing.1 ++ '}' :: next)) =
      some ((first :: others).map MemberText.entry, next) := by
  obtain ⟨fuel, rfl⟩ := Nat.exists_eq_add_one_of_ne_zero (Nat.ne_zero_of_lt enough)
  induction others generalizing first fuel with
  | nil =>
    simp only [List.map_cons, List.map_nil, joined_one] at enough ⊢
    refine members_last first ((Ended.brace next).behind closing) (by omega) ?_
    rw [skipBlanks_blanks, skipBlanks_other (by decide)]
  | cons second others ih =>
    let left := joined ((second :: others).map MemberText.chars) ++ (closing.1 ++ '}' :: next)
    have cut : joined ((first :: second :: others).map MemberText.chars) ++
        (closing.1 ++ '}' :: next) = first.chars ++ ',' :: left := by simp [left]
    rw [cut] at enough ⊢
    have shorter : 2 * left.length < fuel := by
      simp only [List.length_append, List.length_cons] at enough
      omega
    obtain ⟨fuel, rfl⟩ := Nat.exists_eq_add_one_of_ne_zero (Nat.ne_zero_of_lt shorter)
    exact members_more first (Ended.comma left) (by omega) (skipBlanks_other (by decide))
      (ih second fuel shorter)

theorem items_opens {xs : List Parsed} (read : items fuel cs = some (xs, rest)) :
    ∃ c tail, skipBlanks cs = c :: tail ∧ c ≠ ']' := by
  cases fuel with
  | zero => cases read
  | succ fuel =>
    rw [items, Option.bind_eq_bind, Option.bind_eq_some_iff] at read
    obtain ⟨_, first, -⟩ := read
    exact value_opens first

theorem members_opens {ms : List (Option String × Parsed)}
    (read : members fuel cs = some (ms, rest)) : ∃ tail, skipBlanks cs = '"' :: tail := by
  cases fuel with
  | zero => cases read
  | succ fuel =>
    rw [members] at read
    split at read
    case h_1 tail opening => exact ⟨tail, opening⟩
    case h_2 => cases read

theorem value_array {xs : List Parsed} (read : items fuel cs = some (xs, rest)) :
    value (fuel + 1) ('[' :: cs) = some (.array xs, rest) := by
  obtain ⟨c, tail, opening, other⟩ := items_opens read
  rw [← items_skipBlanks, opening] at read
  rw [value, skipBlanks_other (by decide)]
  simp only [opening]
  split
  case h_1 bracket => exact absurd (List.cons.inj bracket).1 other
  case h_2 =>
    rw [read]
    rfl

theorem value_object {ms : List (Option String × Parsed)}
    (read : members fuel cs = some (ms, rest)) :
    value (fuel + 1) ('{' :: cs) = some (.object ms, rest) := by
  obtain ⟨tail, opening⟩ := members_opens read
  rw [← members_skipBlanks, opening] at read
  rw [value, skipBlanks_other (by decide)]
  simp [opening, read]

theorem value_noItems (closed : skipBlanks cs = ']' :: rest) :
    value (fuel + 1) ('[' :: cs) = some (.array [], rest) := by
  rw [value, skipBlanks_other (by decide)]
  simp [closed]

theorem value_noMembers (closed : skipBlanks cs = '}' :: rest) :
    value (fuel + 1) ('{' :: cs) = some (.object [], rest) := by
  rw [value, skipBlanks_other (by decide)]
  simp [closed]

end

theorem ArrayText.isText (array : ArrayText) : IsText (.array array.values) array.chars := by
  obtain ⟨before, pieces, closing⟩ := array
  intro next ended fuel enough
  let inner := joined (pieces.map ItemText.chars) ++ (closing.1 ++ ']' :: next)
  have cut : ArrayText.chars ⟨before, pieces, closing⟩ ++ next = before.1 ++ '[' :: inner := by
    simp [ArrayText.chars, inner]
  rw [cut, List.length_append, List.length_cons] at enough
  obtain ⟨fuel, rfl⟩ := Nat.exists_eq_add_one_of_ne_zero (n := fuel) (by omega)
  rw [cut, value_blanks]
  cases pieces with
  | nil =>
    refine value_noItems ?_
    rw [show inner = closing.1 ++ ']' :: next from rfl, skipBlanks_blanks,
      skipBlanks_other (by decide)]
  | cons first others =>
    have read : 2 * inner.length < fuel → Json.items fuel inner = _ :=
      items_paste first others closing next
    exact value_array (read (by omega))

theorem ObjectText.isText (object : ObjectText) :
    IsText (.object object.entries) object.chars := by
  obtain ⟨before, pieces, closing⟩ := object
  intro next ended fuel enough
  let inner := joined (pieces.map MemberText.chars) ++ (closing.1 ++ '}' :: next)
  have cut : ObjectText.chars ⟨before, pieces, closing⟩ ++ next = before.1 ++ '{' :: inner := by
    simp [ObjectText.chars, inner]
  rw [cut, List.length_append, List.length_cons] at enough
  obtain ⟨fuel, rfl⟩ := Nat.exists_eq_add_one_of_ne_zero (n := fuel) (by omega)
  rw [cut, value_blanks]
  cases pieces with
  | nil =>
    refine value_noMembers ?_
    rw [show inner = closing.1 ++ '}' :: next from rfl, skipBlanks_blanks,
      skipBlanks_other (by decide)]
  | cons first others =>
    have read : 2 * inner.length < fuel → Json.members fuel inner = _ :=
      members_paste first others closing next
    exact value_object (read (by omega))

end Pasting

section Cutting

/-- A text of the value, cut into its items or its members. -/
def Shape : Parsed → List Char → Prop
  | .array xs, text => ∃ array : ArrayText, text = array.chars ∧ array.values = xs
  | .object ms, text => ∃ object : ObjectText, text = object.chars ∧ object.entries = ms
  | v, text => IsText v text

theorem Shape.isText {v : Parsed} {text : List Char} (shape : Shape v text) : IsText v text := by
  cases v with
  | array =>
    obtain ⟨pieces, rfl, rfl⟩ := shape
    exact pieces.isText
  | object =>
    obtain ⟨pieces, rfl, rfl⟩ := shape
    exact pieces.isText
  | _ => exact shape

/-- A text of one value that holds no other. -/
theorem isText_plain {v : Parsed} (before : Blanks) {c : Char} {text : List Char}
    (taken : ∀ fuel next, Ended next → value (fuel + 1) (c :: text ++ next) = some (v, next)) :
    IsText v (before.1 ++ c :: text) := by
  intro next ended fuel enough
  rw [List.append_assoc] at enough ⊢
  obtain ⟨fuel, rfl⟩ := Nat.exists_eq_add_one_of_ne_zero (n := fuel) (by simp at enough; omega)
  rw [value_blanks]
  exact taken fuel next ended

variable {fuel : Nat}

/-- What the parser takes for a value, with so much fuel, starts with a text of the value. -/
def ValuesCut (fuel : Nat) : Prop :=
  ∀ {cs v rest}, value fuel cs = some (v, rest) → ∃ text, cs = text ++ rest ∧ Shape v text

/-- What the parser takes for items starts with texts of them, up to the closing bracket. -/
def ItemsCut (fuel : Nat) : Prop :=
  ∀ {cs xs rest}, items fuel cs = some (xs, rest) → ∃ first others,
    cs = joined ((first :: others).map ItemText.chars) ++ ']' :: rest ∧
      (first :: others).map ItemText.value = xs

/-- What the parser takes for members starts with texts of them, up to the closing brace. -/
def MembersCut (fuel : Nat) : Prop :=
  ∀ {cs ms rest}, members fuel cs = some (ms, rest) → ∃ first others,
    cs = joined ((first :: others).map MemberText.chars) ++ '}' :: rest ∧
      (first :: others).map MemberText.entry = ms

theorem array_cut (before : Blanks) (itemsCut : ItemsCut fuel) {left : List Char} {v : Parsed}
    (read : value (fuel + 1) ('[' :: left) = some (v, rest)) :
    ∃ text, before.1 ++ '[' :: left = text ++ rest ∧ Shape v text := by
  obtain ⟨inner, tail, rfl, opening⟩ := skipBlanks_cut left
  rw [value, skipBlanks_other (by decide)] at read
  simp only [opening] at read
  split at read
  case h_1 =>
    cases read
    exact ⟨_, by simp [ArrayText.chars, joined], ⟨before, [], inner⟩, rfl, rfl⟩
  case h_2 =>
    obtain ⟨⟨xs, left⟩, inside, read⟩ := Option.bind_eq_some_iff.mp read
    cases read
    rw [← opening, items_skipBlanks] at inside
    obtain ⟨first, others, cut, rfl⟩ := itemsCut inside
    refine ⟨ArrayText.chars ⟨before, first :: others, noBlanks⟩, ?_, _, rfl, rfl⟩
    simp [cut, ArrayText.chars, noBlanks]

theorem object_cut (before : Blanks) (membersCut : MembersCut fuel) {left : List Char}
    {v : Parsed} (read : value (fuel + 1) ('{' :: left) = some (v, rest)) :
    ∃ text, before.1 ++ '{' :: left = text ++ rest ∧ Shape v text := by
  obtain ⟨inner, tail, rfl, opening⟩ := skipBlanks_cut left
  rw [value, skipBlanks_other (by decide)] at read
  simp only [opening] at read
  split at read
  case h_1 =>
    cases read
    exact ⟨_, by simp [ObjectText.chars, joined], ⟨before, [], inner⟩, rfl, rfl⟩
  case h_2 =>
    obtain ⟨⟨ms, left⟩, inside, read⟩ := Option.bind_eq_some_iff.mp read
    cases read
    rw [← opening, members_skipBlanks] at inside
    obtain ⟨first, others, cut, rfl⟩ := membersCut inside
    refine ⟨ObjectText.chars ⟨before, first :: others, noBlanks⟩, ?_, _, rfl, rfl⟩
    simp [cut, ObjectText.chars, noBlanks]

theorem values_succ (itemsCut : ItemsCut fuel) (membersCut : MembersCut fuel) :
    ValuesCut (fuel + 1) := by
  intro cs v rest read
  obtain ⟨before, tail, rfl, opening⟩ := skipBlanks_cut cs
  rw [value_blanks] at read
  rw [skipBlanks_blanks] at opening
  have inside := read
  rw [value, opening] at inside
  split at inside
  case h_1 =>
    cases inside
    exact ⟨before.1 ++ ['n', 'u', 'l', 'l'], by simp, isText_plain before fun _ _ _ => rfl⟩
  case h_2 =>
    cases inside
    exact ⟨before.1 ++ ['t', 'r', 'u', 'e'], by simp, isText_plain before fun _ _ _ => rfl⟩
  case h_3 =>
    cases inside
    exact ⟨before.1 ++ ['f', 'a', 'l', 's', 'e'], by simp, isText_plain before fun _ _ _ => rfl⟩
  case h_4 left =>
    obtain ⟨⟨name, left⟩, string, inside⟩ := Option.bind_eq_some_iff.mp inside
    cases inside
    obtain ⟨text, rfl, taken⟩ := stringTail_cut string
    refine ⟨before.1 ++ '"' :: text, by simp, isText_plain before fun fuel next _ => ?_⟩
    rw [List.cons_append, value, skipBlanks_other (by decide)]
    simp [taken next trivial]
  case h_5 => exact array_cut before itemsCut read
  case h_6 => exact object_cut before membersCut read
  case h_7 =>
    obtain ⟨⟨parts, left⟩, number, inside⟩ := Option.bind_eq_some_iff.mp inside
    cases inside
    obtain ⟨c, text, first, rfl, taken⟩ := literal_cut number
    refine ⟨before.1 ++ c :: text, by simp, isText_plain before fun fuel next ended => ?_⟩
    have taken := taken next ended
    rw [List.cons_append] at taken ⊢
    rw [value_number first, taken]
    rfl

theorem items_succ (valuesCut : ValuesCut fuel) (itemsCut : ItemsCut fuel) :
    ItemsCut (fuel + 1) := by
  intro cs xs rest read
  simp only [items, Option.bind_eq_bind, Option.bind_eq_some_iff] at read
  obtain ⟨⟨v, left⟩, first, read⟩ := read
  obtain ⟨text, rfl, shape⟩ := valuesCut first
  obtain ⟨after, tail, rfl, opening⟩ := skipBlanks_cut left
  dsimp only at read
  rw [opening] at read
  clear opening first
  split at read
  case h_1 =>
    obtain ⟨⟨xs, left⟩, later, read⟩ := Option.bind_eq_some_iff.mp read
    cases read
    obtain ⟨second, others, rfl, rfl⟩ := itemsCut later
    refine ⟨⟨v, text, shape.isText, after⟩, second :: others, ?_, rfl⟩
    simp [ItemText.chars]
  case h_2 =>
    cases read
    exact ⟨⟨v, text, shape.isText, after⟩, [], by simp [ItemText.chars], rfl⟩
  case h_3 => cases read

theorem members_succ (valuesCut : ValuesCut fuel) (membersCut : MembersCut fuel) :
    MembersCut (fuel + 1) := by
  intro cs ms rest read
  obtain ⟨before, tail, rfl, opening⟩ := skipBlanks_cut cs
  rw [members, opening] at read
  clear opening
  split at read
  case h_2 => cases read
  case h_1 left =>
  simp only [Option.bind_eq_bind, Option.bind_eq_some_iff] at read
  obtain ⟨⟨name, left⟩, first, read⟩ := read
  obtain ⟨literal, rfl, named⟩ := stringTail_cut first
  obtain ⟨middle, tail, rfl, opening⟩ := skipBlanks_cut left
  dsimp only at read
  rw [opening] at read
  clear opening first
  split at read
  case h_2 => cases read
  case h_1 left =>
  simp only [Option.bind_eq_some_iff] at read
  obtain ⟨⟨v, left⟩, first, read⟩ := read
  obtain ⟨text, rfl, shape⟩ := valuesCut first
  obtain ⟨after, tail, rfl, opening⟩ := skipBlanks_cut left
  dsimp only at read
  rw [opening] at read
  clear opening first
  let member : MemberText := ⟨before, name, literal, named, middle, v, text, shape.isText, after⟩
  split at read
  case h_1 =>
    obtain ⟨⟨ms, left⟩, later, read⟩ := Option.bind_eq_some_iff.mp read
    cases read
    obtain ⟨second, others, rfl, rfl⟩ := membersCut later
    refine ⟨member, second :: others, ?_, rfl⟩
    simp [member, MemberText.chars, ItemText.chars]
  case h_2 =>
    cases read
    exact ⟨member, [], by simp [member, MemberText.chars, ItemText.chars], rfl⟩
  case h_3 => cases read

/-- Each of the three readers cuts what it takes, as the others do with less fuel. -/
theorem parser_cuts (fuel : Nat) : ValuesCut fuel ∧ ItemsCut fuel ∧ MembersCut fuel := by
  induction fuel with
  | zero => exact ⟨nofun, nofun, nofun⟩
  | succ fuel ih =>
    obtain ⟨valuesCut, itemsCut, membersCut⟩ := ih
    exact ⟨values_succ itemsCut membersCut, items_succ valuesCut itemsCut,
      members_succ valuesCut membersCut⟩

theorem isText_iff_shape {v : Parsed} {text : List Char} : IsText v text ↔ Shape v text := by
  refine ⟨fun isText => ?_, Shape.isText⟩
  have read := isText [] head_nil _ (Nat.le_refl _)
  obtain ⟨whole, cut, shape⟩ := (parser_cuts _).1 read
  simp only [List.append_nil] at cut
  exact cut ▸ shape

theorem isText_array_iff {xs : List Parsed} {text : List Char} :
    IsText (.array xs) text ↔ ∃ pieces : ArrayText, text = pieces.chars ∧ pieces.values = xs :=
  isText_iff_shape

theorem isText_object_iff {ms : List (Option String × Parsed)} {text : List Char} :
    IsText (.object ms) text ↔ ∃ pieces : ObjectText, text = pieces.chars ∧ pieces.entries = ms :=
  isText_iff_shape

/-- A text that stands for a value is a text of the value, with blanks behind it. -/
theorem ofText?_iff {text : String} {v : Parsed} : Parsed.ofText? text = some v ↔
    ∃ item : ItemText, text.toList = item.chars ∧ item.value = v := by
  simp only [Parsed.ofText?, Option.bind_eq_bind, Option.bind_eq_some_iff]
  constructor
  · rintro ⟨⟨w, rest⟩, read, ended⟩
    obtain ⟨behind, cut, shape⟩ := (parser_cuts _).1 read
    obtain ⟨after, tail, rfl, opening⟩ := skipBlanks_cut rest
    rw [opening] at ended
    split at ended
    case isTrue nothing =>
      cases ended
      rw [List.isEmpty_iff.mp nothing, List.append_nil] at cut
      exact ⟨⟨w, behind, shape.isText, after⟩, cut, rfl⟩
    case isFalse => cases ended
  · rintro ⟨item, chars, rfl⟩
    have nothing : Ended [] := head_nil
    have ended : Ended item.after.1 := by simpa using nothing.behind item.after
    refine ⟨(item.value, item.after.1), ?_, ?_⟩
    · rw [chars]
      exact item.isText _ ended _ (Nat.le_add_right _ 2)
    · have blank : skipBlanks (item.after.1 ++ []) = [] := skipBlanks_blanks item.after []
      rw [List.append_nil] at blank
      rw [blank]
      rfl

/-- A text of an object, with blanks around it. -/
theorem ofText?_object_iff {text : String} {ms : List (Option String × Parsed)} :
    Parsed.ofText? text = some (.object ms) ↔ ∃ (pieces : ObjectText) (after : Blanks),
      text.toList = pieces.chars ++ after.1 ∧ pieces.entries = ms := by
  rw [ofText?_iff]
  constructor
  · rintro ⟨⟨_, chars, isText, after⟩, cut, rfl⟩
    obtain ⟨pieces, rfl, rfl⟩ := isText_object_iff.mp isText
    exact ⟨pieces, after, cut, rfl⟩
  · rintro ⟨pieces, after, cut, rfl⟩
    exact ⟨⟨_, pieces.chars, pieces.isText, after⟩, cut, rfl⟩

end Cutting

end Reconciler.Json
