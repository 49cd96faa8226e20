import Reconciler.Proofs.Json.Literals

/-!
Spellings of a value: texts that stand for it, with blanks between its parts. Both writers spell the
value that they are given, and the parser takes every spelling for just that value.
-/
namespace Reconciler

namespace Parsed

mutual

/-- A value as it stands in a text. -/
def ofJson : Json → Parsed
  | .null => .null
  | .bool b => .bool b
  | .number n => .number (some n)
  | .string s => .string (some s)
  | .array items => .array (ofItems items)
  | .object members => .object (ofMembers members)

def ofItems : List Json → List Parsed
  | [] => []
  | item :: rest => ofJson item :: ofItems rest

def ofMembers : List (String × Json) → List (Option String × Parsed)
  | [] => []
  | (name, value) :: rest => (some name, ofJson value) :: ofMembers rest

end

end Parsed

namespace Json

mutual

/-- Every number in the value is a whole number. -/
def isWhole : Json → Bool
  | .number (.real ..) => false
  | .array items => areWhole items
  | .object members => haveWhole members
  | _ => true

def areWhole : List Json → Bool
  | [] => true
  | item :: rest => isWhole item && areWhole rest

def haveWhole : List (String × Json) → Bool
  | [] => true
  | (_, value) :: rest => isWhole value && haveWhole rest

end

/-- What a stretch of a text stands for: a value, or what is left of an array or an object up to its
closing bracket, with at least one item or member. -/
inductive Stretch
  | one (value : Json)
  | inArray (first : Json) (others : List Json)
  | inObject (name : String) (first : Json) (others : List (String × Json))

/-- The first text stands for a stretch, up to the second one. -/
inductive Spells : Stretch → List Char → List Char → Prop
  | blank {form : Stretch} {c : Char} {cs rest : List Char} (blank : isBlank c = true)
      (spelled : Spells form cs rest) : Spells form (c :: cs) rest
  | null (rest : List Char) : Spells (.one .null) ('n' :: 'u' :: 'l' :: 'l' :: rest) rest
  | yes (rest : List Char) : Spells (.one (.bool true)) ('t' :: 'r' :: 'u' :: 'e' :: rest) rest
  | no (rest : List Char) :
      Spells (.one (.bool false)) ('f' :: 'a' :: 'l' :: 's' :: 'e' :: rest) rest
  | whole {value : Int} (inRange : -0x8000000000000000 ≤ value ∧ value < 0x10000000000000000)
      {rest : List Char} (ended : Ended rest) :
      Spells (.one (.number (.whole value inRange)))
        ((Number.whole value inRange).toText.toList ++ rest) rest
  | string (text : String) (rest : List Char) :
      Spells (.one (.string text)) (writeString text rest) rest
  | noItems (rest : List Char) : Spells (.one (.array [])) ('[' :: ']' :: rest) rest
  | array {first : Json} {others : List Json} {cs rest : List Char}
      (inner : Spells (.inArray first others) cs rest) :
      Spells (.one (.array (first :: others))) ('[' :: cs) rest
  | lastItem {value : Json} {cs left rest : List Char}
      (spelled : Spells (.one value) cs left) (closed : skipBlanks left = ']' :: rest) :
      Spells (.inArray value []) cs rest
  | item {value next : Json} {others : List Json} {cs left more rest : List Char}
      (spelled : Spells (.one value) cs left) (comma : skipBlanks left = ',' :: more)
      (later : Spells (.inArray next others) more rest) :
      Spells (.inArray value (next :: others)) cs rest
  | noMembers (rest : List Char) : Spells (.one (.object [])) ('{' :: '}' :: rest) rest
  | object {name : String} {first : Json} {others : List (String × Json)} {cs rest : List Char}
      (inner : Spells (.inObject name first others) cs rest) :
      Spells (.one (.object ((name, first) :: others))) ('{' :: cs) rest
  | lastMember {name : String} {value : Json} {cs left rest : List Char}
      (spelled : Spells (.one value) cs left) (closed : skipBlanks left = '}' :: rest) :
      Spells (.inObject name value []) (writeString name (':' :: cs)) rest
  | member {name next : String} {value first : Json} {others : List (String × Json)}
      {cs left more rest : List Char} (spelled : Spells (.one value) cs left)
      (comma : skipBlanks left = ',' :: more)
      (later : Spells (.inObject next first others) more rest) :
      Spells (.inObject name value ((next, first) :: others)) (writeString name (':' :: cs)) rest

section Blanks

variable {c : Char} {cs rest : List Char}

theorem skipBlanks_blank (blank : isBlank c = true) : skipBlanks (c :: cs) = skipBlanks cs := by
  simp [skipBlanks, blank]

theorem skipBlanks_other (other : isBlank c = false) : skipBlanks (c :: cs) = c :: cs := by
  simp [skipBlanks, other]

theorem skipBlanks_newline (level : Nat) : skipBlanks (newline level rest) = skipBlanks rest := by
  have line : isBlank '\n' = true := by decide
  have indent : ∀ c ∈ List.replicate (2 * level) ' ', isBlank c = true := by
    intro c member
    rw [List.eq_of_mem_replicate member]
    decide
  rw [newline, skipBlanks_blank line, skipBlanks, List.dropWhile_append_of_pos indent]
  rfl

theorem length_lt_of_skipBlanks (found : skipBlanks cs = c :: rest) : rest.length < cs.length := by
  have shorter := (List.dropWhile_suffix (l := cs) isBlank).length_le
  rw [show cs.dropWhile isBlank = c :: rest from found, List.length_cons] at shorter
  omega

/-- Where the parser looks for a value it does not mind a blank. -/
theorem value_blank (blank : isBlank c = true) (fuel : Nat) :
    value fuel (c :: cs) = value fuel cs := by
  cases fuel with
  | zero => rfl
  | succ fuel => rw [value, value, skipBlanks_blank blank]

theorem items_blank (blank : isBlank c = true) (fuel : Nat) :
    items fuel (c :: cs) = items fuel cs := by
  cases fuel with
  | zero => rfl
  | succ fuel => rw [items, items, value_blank blank]

theorem members_blank (blank : isBlank c = true) (fuel : Nat) :
    members fuel (c :: cs) = members fuel cs := by
  cases fuel with
  | zero => rfl
  | succ fuel => rw [members, members, skipBlanks_blank blank]

theorem items_skipBlanks (fuel : Nat) (cs : List Char) :
    items fuel (skipBlanks cs) = items fuel cs := by
  induction cs with
  | nil => rfl
  | cons c cs ih =>
    by_cases blank : isBlank c = true
    · rw [skipBlanks_blank blank, items_blank blank, ih]
    · rw [skipBlanks_other (by simpa using blank)]

theorem members_skipBlanks (fuel : Nat) (cs : List Char) :
    members fuel (skipBlanks cs) = members fuel cs := by
  induction cs with
  | nil => rfl
  | cons c cs ih =>
    by_cases blank : isBlank c = true
    · rw [skipBlanks_blank blank, members_blank blank, ih]
    · rw [skipBlanks_other (by simpa using blank)]

end Blanks

section Reading

variable {form : Stretch} {cs rest : List Char}

theorem length_lt_escaped (c : Char) (rest : List Char) :
    rest.length < (escaped c rest).length := by
  unfold escaped
  repeat' split
  all_goals simp only [List.length_cons]; omega

theorem length_lt_writeString (text : String) (rest : List Char) :
    rest.length < (writeString text rest).length := by
  have longer (cs : List Char) : rest.length < (cs.foldr escaped ('"' :: rest)).length := by
    induction cs with
    | nil => simp
    | cons c cs ih => exact Nat.lt_trans ih (length_lt_escaped c _)
  have := longer text.toList
  simp only [writeString, List.length_cons]
  omega

/-- Every stretch takes some text. -/
theorem Spells.length_lt (spelled : Spells form cs rest) : rest.length < cs.length := by
  induction spelled with
  | blank _ _ ih => simp only [List.length_cons]; omega
  | null | yes | no | noItems | noMembers => simp only [List.length_cons]; omega
  | whole inRange =>
    obtain ⟨c, digits, first, -⟩ := head_whole inRange
    simp only [first, List.length_append, List.length_cons]
    omega
  | string => exact length_lt_writeString _ _
  | array _ ih | object _ ih => simp only [List.length_cons]; omega
  | lastItem _ closed ih => exact Nat.lt_trans (length_lt_of_skipBlanks closed) ih
  | item _ comma _ ih ih' =>
    exact Nat.lt_trans ih' (Nat.lt_trans (length_lt_of_skipBlanks comma) ih)
  | @lastMember name _ cs _ _ _ closed ih =>
    have behind := length_lt_writeString name (':' :: cs)
    have inside := length_lt_of_skipBlanks closed
    simp only [List.length_cons] at behind
    omega
  | @member name _ _ _ _ cs _ _ _ _ comma _ ih ih' =>
    have behind := length_lt_writeString name (':' :: cs)
    have inside := length_lt_of_skipBlanks comma
    simp only [List.length_cons] at behind
    omega

/-- A character that a number starts with is neither a blank nor a closing bracket. -/
theorem opens_number {c : Char} (opening : c = '-' ∨ isDigit c = true) :
    isBlank c = false ∧ c ≠ ']' ∧ c ≠ '}' := by
  rcases opening with rfl | digit
  · decide
  · have other (d : Char) (none : isDigit d = false) : c ≠ d := by
      rintro rfl
      simp [none] at digit
    simp [isBlank, other ' ' (by decide), other '\t' (by decide), other '\n' (by decide),
      other '\r' (by decide), other ']' (by decide), other '}' (by decide)]

/-- What starts like a number is read as one. -/
theorem value_number {c : Char} (opening : c = '-' ∨ isDigit c = true) (fuel : Nat)
    (cs : List Char) : value (fuel + 1) (c :: cs) =
      (literal (c :: cs)).bind fun (parts, rest) => some (.number parts.toNumber?, rest) := by
  have other (d : Char) (none : d ≠ '-' ∧ isDigit d = false) : c ≠ d := by
    rintro rfl
    simp [none] at opening
  rw [value, skipBlanks_other (opens_number opening).1]
  split
  case h_7 => rfl
  all_goals rename_i start; exact absurd (List.cons.inj start).1 (other _ (by decide))

/-- No stretch starts with a closing bracket. -/
theorem Spells.opens (spelled : Spells form cs rest) :
    ∃ c tail, skipBlanks cs = c :: tail ∧ c ≠ ']' ∧ c ≠ '}' := by
  induction spelled with
  | blank blank _ ih => rwa [skipBlanks_blank blank]
  | whole inRange =>
    obtain ⟨c, digits, first, opening⟩ := head_whole inRange
    rw [first, List.cons_append, skipBlanks_other (opens_number opening).1]
    exact ⟨c, _, rfl, (opens_number opening).2.1, (opens_number opening).2.2⟩
  | lastItem _ _ ih | item _ _ _ ih => exact ih
  | _ => exact ⟨_, _, rfl, by decide, by decide⟩

/-- The parser takes a stretch of a text for what it stands for, with fuel for all of the text. -/
def Stretch.IsRead (cs rest : List Char) : Stretch → Prop
  | .one v => ∀ fuel, 2 * cs.length ≤ fuel → value fuel cs = some (.ofJson v, rest)
  | .inArray first others => ∀ fuel, 2 * cs.length + 1 ≤ fuel →
    items fuel cs = some (Parsed.ofItems (first :: others), rest)
  | .inObject name first others => ∀ fuel, 2 * cs.length + 1 ≤ fuel →
    members fuel cs = some (Parsed.ofMembers ((name, first) :: others), rest)

theorem Spells.isRead (spelled : Spells form cs rest) : form.IsRead cs rest := by
  induction spelled with
  | @blank form c cs rest blank _ ih =>
    cases form with
    | one v =>
      intro fuel enough
      rw [value_blank blank]
      exact ih fuel (by simp only [List.length_cons] at enough; omega)
    | inArray first others =>
      intro fuel enough
      rw [items_blank blank]
      exact ih fuel (by simp only [List.length_cons] at enough; omega)
    | inObject name first others =>
      intro fuel enough
      rw [members_blank blank]
      exact ih fuel (by simp only [List.length_cons] at enough; omega)
  | null | yes | no | noItems | noMembers =>
    intro fuel enough
    cases fuel with
    | zero => simp at enough
    | succ fuel => rfl
  | @whole whole inRange rest ended =>
    intro fuel enough
    obtain ⟨c, digits, first, opening⟩ := head_whole inRange
    obtain ⟨parts, read, number⟩ := literal_whole inRange ended
    cases fuel with
    | zero => simp [first] at enough
    | succ fuel =>
      rw [first, List.cons_append] at read ⊢
      rw [value_number opening, read]
      simp [number, Parsed.ofJson]
  | string text rest =>
    intro fuel enough
    cases fuel with
    | zero => simp [writeString] at enough
    | succ fuel =>
      rw [writeString, value, skipBlanks_other (by decide)]
      simp [stringTail_text, Parsed.ofJson]
  | @array first others cs rest inner ih =>
    intro fuel enough
    cases fuel with
    | zero => simp at enough
    | succ fuel =>
      have read := ih fuel (by simp only [List.length_cons] at enough; omega)
      rw [← items_skipBlanks] at read
      obtain ⟨c, tail, opening, bracket, -⟩ := inner.opens
      rw [value, skipBlanks_other (by decide)]
      simp only [opening] at read ⊢
      split
      case h_1 closing => exact absurd (List.cons.inj closing).1 bracket
      case h_2 => simp [read, Parsed.ofJson]
  | @lastItem first cs left rest spelled closed ih =>
    intro fuel enough
    cases fuel with
    | zero => omega
    | succ fuel =>
      rw [items, ih fuel (by omega)]
      simp [closed, Parsed.ofItems]
  | @item first next others cs left more rest spelled comma later ih ih' =>
    intro fuel enough
    cases fuel with
    | zero => omega
    | succ fuel =>
      have shorter := length_lt_of_skipBlanks comma
      have inside := spelled.length_lt
      rw [items, ih fuel (by omega)]
      simp [comma, ih' fuel (by omega), Parsed.ofItems]
  | @object name first others cs rest inner ih =>
    intro fuel enough
    cases fuel with
    | zero => simp at enough
    | succ fuel =>
      have read := ih fuel (by simp only [List.length_cons] at enough; omega)
      rw [← members_skipBlanks] at read
      obtain ⟨c, tail, opening, -, brace⟩ := inner.opens
      rw [value, skipBlanks_other (by decide)]
      simp only [opening] at read ⊢
      split
      case h_1 closing => exact absurd (List.cons.inj closing).1 brace
      case h_2 => simp [read, Parsed.ofJson]
  | @lastMember name first cs left rest spelled closed ih =>
    intro fuel enough
    have behind := length_lt_writeString name (':' :: cs)
    rw [List.length_cons] at behind
    cases fuel with
    | zero => omega
    | succ fuel =>
      rw [writeString, members, skipBlanks_other (by decide)]
      have colon : skipBlanks (':' :: cs) = ':' :: cs := skipBlanks_other (by decide)
      simp [stringTail_text, colon, ih fuel (by omega), closed, Parsed.ofMembers]
  | @member name next first second others cs left more rest spelled comma later ih ih' =>
    intro fuel enough
    have behind := length_lt_writeString name (':' :: cs)
    have shorter := length_lt_of_skipBlanks comma
    have inside := spelled.length_lt
    rw [List.length_cons] at behind
    cases fuel with
    | zero => omega
    | succ fuel =>
      rw [writeString, members, skipBlanks_other (by decide)]
      have colon : skipBlanks (':' :: cs) = ':' :: cs := skipBlanks_other (by decide)
      simp [stringTail_text, colon, ih fuel (by omega), comma, ih' fuel (by omega),
        Parsed.ofMembers]

end Reading

section Writing

variable {form : Stretch} {rest : List Char}

theorem Ended.comma (rest : List Char) : Ended (',' :: rest) := by simp [Ended, isDigit]

theorem Ended.bracket (rest : List Char) : Ended (']' :: rest) := by simp [Ended, isDigit]

theorem Ended.brace (rest : List Char) : Ended ('}' :: rest) := by simp [Ended, isDigit]

theorem Ended.newline (level : Nat) (rest : List Char) : Ended (Json.newline level rest) := by
  simp [Ended, Json.newline, isDigit]

theorem Spells.newline {cs : List Char} (spelled : Spells form cs rest) (level : Nat) :
    Spells form (Json.newline level cs) rest := by
  have indented (count : Nat) : Spells form (List.replicate count ' ' ++ cs) rest := by
    induction count with
    | zero => exact spelled
    | succ count ih => exact .blank (by decide) ih
  exact .blank (by decide) (indented (2 * level))

/-- A writer spells a value, whatever ends it. -/
def SpelledBy (write : List Char → List Char) (v : Json) : Prop :=
  ∀ rest, Ended rest → Spells (.one v) (write rest) rest

mutual

theorem write_spells : (v : Json) → v.isWhole = true → SpelledBy v.write v
  | .null, _ => fun rest _ => .null rest
  | .bool true, _ => fun rest _ => .yes rest
  | .bool false, _ => fun rest _ => .no rest
  | .number (.whole _ inRange), _ => fun _ ended => .whole inRange ended
  | .string text, _ => fun rest _ => .string text rest
  | .array [], _ => fun rest _ => .noItems rest
  | .array (first :: others), whole => fun _ _ =>
    have whole := Bool.and_eq_true_iff.mp whole
    .array (writeItems_spells others first (write_spells first whole.1) whole.2)
  | .object [], _ => fun rest _ => .noMembers rest
  | .object ((name, first) :: others), whole => fun _ _ =>
    have whole := Bool.and_eq_true_iff.mp whole
    .object (writeMembers_spells others name first (write_spells first whole.1) whole.2)

theorem writeItems_spells : (others : List Json) → (first : Json) →
    SpelledBy first.write first → areWhole others = true → ∀ {rest},
      Spells (.inArray first others) (first.write (writeItems others rest)) rest
  | [], _, spelled, _, rest => .lastItem (spelled _ (.bracket rest)) rfl
  | next :: others, _, spelled, whole, _ =>
    have whole := Bool.and_eq_true_iff.mp whole
    .item (spelled _ (.comma _)) rfl
      (writeItems_spells others next (write_spells next whole.1) whole.2)

theorem writeMembers_spells : (others : List (String × Json)) → (name : String) →
    (first : Json) → SpelledBy first.write first → haveWhole others = true → ∀ {rest},
      Spells (.inObject name first others)
        (writeString name (':' :: first.write (writeMembers others rest))) rest
  | [], _, _, spelled, _, rest => .lastMember (spelled _ (.brace rest)) rfl
  | (name, next) :: others, _, _, spelled, whole, _ =>
    have whole := Bool.and_eq_true_iff.mp whole
    .member (spelled _ (.comma _)) rfl
      (writeMembers_spells others name next (write_spells next whole.1) whole.2)

end

mutual

theorem writeIndented_spells (level : Nat) : (v : Json) → v.isWhole = true →
    SpelledBy (v.writeIndented level) v
  | .null, _ => fun rest _ => .null rest
  | .bool true, _ => fun rest _ => .yes rest
  | .bool false, _ => fun rest _ => .no rest
  | .number (.whole _ inRange), _ => fun _ ended => .whole inRange ended
  | .string text, _ => fun rest _ => .string text rest
  | .array [], _ => fun rest _ => .noItems rest
  | .array (first :: others), whole => fun _ _ =>
    have whole := Bool.and_eq_true_iff.mp whole
    have spelled := writeIndented_spells (level + 1) first whole.1
    .array ((writeIndentedItems_spells level others first spelled whole.2).newline _)
  | .object [], _ => fun rest _ => .noMembers rest
  | .object ((name, first) :: others), whole => fun _ _ =>
    have whole := Bool.and_eq_true_iff.mp whole
    have spelled := writeIndented_spells (level + 1) first whole.1
    .object ((writeIndentedMembers_spells level others name first spelled whole.2).newline _)

theorem writeIndentedItems_spells (level : Nat) : (others : List Json) → (first : Json) →
    SpelledBy (first.writeIndented (level + 1)) first → areWhole others = true → ∀ {rest},
      Spells (.inArray first others)
        (first.writeIndented (level + 1) (writeIndentedItems level others rest)) rest
  | [], _, spelled, _, _ => .lastItem (spelled _ (.newline level _)) (skipBlanks_newline level)
  | next :: others, _, spelled, whole, _ =>
    have whole := Bool.and_eq_true_iff.mp whole
    have later := writeIndented_spells (level + 1) next whole.1
    .item (spelled _ (.comma _)) rfl
      ((writeIndentedItems_spells level others next later whole.2).newline _)

theorem writeIndentedMembers_spells (level : Nat) : (others : List (String × Json)) →
    (name : String) → (first : Json) → SpelledBy (first.writeIndented (level + 1)) first →
    haveWhole others = true → ∀ {rest}, Spells (.inObject name first others)
      (writeString name (':' :: ' ' ::
        first.writeIndented (level + 1) (writeIndentedMembers level others rest))) rest
  | [], _, _, spelled, _, _ =>
    .lastMember (.blank (by decide) (spelled _ (.newline level _))) (skipBlanks_newline level)
  | (name, next) :: others, _, _, spelled, whole, _ =>
    have whole := Bool.and_eq_true_iff.mp whole
    have later := writeIndented_spells (level + 1) next whole.1
    .member (.blank (by decide) (spelled _ (.comma _))) rfl
      ((writeIndentedMembers_spells level others name next later whole.2).newline _)

end

/-- A text that spells a value is taken for it. -/
theorem ofText?_of_spells {v : Json} {cs : List Char} (spelled : Spells (.one v) cs []) :
    Parsed.ofText? (String.ofList cs) = some (.ofJson v) := by
  have read : value (2 * cs.length + 2) cs = some (.ofJson v, []) :=
    spelled.isRead (2 * cs.length + 2) (by omega)
  simp only [Parsed.ofText?, String.toList_ofList, read]
  rfl

theorem ofText?_compact {v : Json} (whole : v.isWhole = true) :
    Parsed.ofText? v.compact = some (.ofJson v) :=
  ofText?_of_spells (write_spells v whole [] (by simp [Ended]))

theorem ofText?_indented {v : Json} (whole : v.isWhole = true) :
    Parsed.ofText? v.indented = some (.ofJson v) :=
  ofText?_of_spells (writeIndented_spells 0 v whole [] (by simp [Ended]))

end Writing

end Json

end Reconciler
