import Reconciler.Json.Parser
import Reconciler.Json.Printer

/-!
Written literals are read back: a string with its escapes, and a whole number with its sign. What
follows the literal is left over as it is; behind a number it must not go on with it.
-/
namespace Reconciler.Json

section Strings

/-- A piece of a string literal that stands for a character, whatever follows it. -/
def Piece.Denotes (p : Piece) (c : Char) : Prop :=
  ∀ ps, assemble (p :: ps) = (c :: ·) <$> assemble ps

theorem Piece.Denotes.char (c : Char) : (Piece.char c).Denotes c := fun _ => by rw [assemble]

/-- The number of a character below the surrogates stands for the character. -/
theorem Piece.Denotes.unit {c : Char} (low : c.toNat < 0xd800) :
    (Piece.unit c.toNat).Denotes c := by
  have notHigh : isHighSurrogate c.toNat = false := by simp [isHighSurrogate]; omega
  have notLow : isLowSurrogate c.toNat = false := by simp [isLowSurrogate]; omega
  intro ps
  match ps with
  | [] | .char _ :: _ | .unit _ :: _ => simp [assemble, notHigh, notLow]

theorem hexValue_hexDigit : ∀ n < 16, hexValue (hexDigit n) = some n := by decide

/-- The four digits that a control character is written with. -/
theorem hexUnit_control {n : Nat} (control : n < 32) :
    hexUnit '0' '0' (hexDigit (n / 16)) (hexDigit (n % 16)) = some n := by
  have zero : hexValue '0' = some 0 := by decide
  rw [hexUnit, zero, hexValue_hexDigit (n / 16) (by omega), hexValue_hexDigit (n % 16) (by omega)]
  simp only [Option.bind_eq_bind, Option.bind_some, Option.pure_def, Option.some.injEq]
  omega

/-- A written character is one piece, which stands for it. -/
theorem pieces_escaped (c : Char) (rest : List Char) : ∃ p : Piece, p.Denotes c ∧
    pieces (escaped c rest) = (pieces rest).bind fun (ps, left) => some (p :: ps, left) := by
  by_cases short : c ∈ ['"', '\\', '\x08', '\x0c', '\n', '\r', '\t']
  · refine ⟨.char c, .char c, ?_⟩
    simp only [List.mem_cons, List.not_mem_nil, or_false] at short
    rcases short with rfl | rfl | rfl | rfl | rfl | rfl | rfl
    all_goals rfl
  simp only [List.mem_cons, List.not_mem_nil, or_false, not_or] at short
  obtain ⟨quote, slash, back, form, line, carriage, tab⟩ := short
  simp only [escaped, quote, slash, back, form, line, carriage, tab, if_false]
  by_cases control : c < ' '
  · have small : c.toNat < 32 := control
    refine ⟨.unit c.toNat, .unit (by omega), ?_⟩
    rw [if_pos control, pieces, hexUnit_control small]
    rfl
  · refine ⟨.char c, .char c, ?_⟩
    rw [if_neg control, pieces]
    · simp [slash, control]
    all_goals simp_all

/-- The characters of a text, and nothing of what stands behind its closing quote. -/
theorem pieces_text (text rest : List Char) : ∃ ps,
    pieces (text.foldr escaped ('"' :: rest)) = some (ps, rest) ∧ assemble ps = some text := by
  induction text with
  | nil => exact ⟨[], rfl, by rw [assemble]⟩
  | cons c text ih =>
    obtain ⟨ps, read, assembled⟩ := ih
    obtain ⟨p, denotes, first⟩ := pieces_escaped c (text.foldr escaped ('"' :: rest))
    refine ⟨p :: ps, ?_, ?_⟩
    · rw [List.foldr_cons, first, read]
      rfl
    · rw [denotes ps, assembled]
      rfl

theorem stringTail_text (text : String) (rest : List Char) :
    stringTail (text.toList.foldr escaped ('"' :: rest)) = some (some text, rest) := by
  obtain ⟨ps, read, assembled⟩ := pieces_text text.toList rest
  simp [stringTail, read, assembled]

end Strings

section Numbers

/-- What stands behind a number does not go on with it. -/
def Ended (rest : List Char) : Prop :=
  ∀ c ∈ rest.head?, isDigit c = false ∧ c ≠ '.' ∧ c ≠ 'e' ∧ c ≠ 'E'

theorem isDigit_eq (c : Char) : isDigit c = c.isDigit := by
  simp [isDigit, Char.isDigit, Char.le_def]

theorem ofDigits_toDigits (n : Nat) : Number.ofDigits (Nat.toDigits 10 n) = n := by
  have same := Nat.ofDigitChars_ten_toDigits (n := n)
  rwa [Nat.ofDigitChars_eq_foldl] at same

theorem isDigit_toDigits {n : Nat} {c : Char} (member : c ∈ Nat.toDigits 10 n) :
    isDigit c = true := by
  rw [isDigit_eq]
  exact Nat.isDigit_of_mem_toDigits (by decide) (by decide) member

/-- What stands behind digits does not go on with them. -/
def NoDigit (rest : List Char) : Prop := ∀ c ∈ rest.head?, isDigit c = false

theorem Ended.noDigit {rest : List Char} (ended : Ended rest) : NoDigit rest :=
  fun c first => (ended c first).1

/-- Digits up to where they end. -/
theorem span_digits {digits rest : List Char} (allDigits : ∀ c ∈ digits, isDigit c = true)
    (ended : NoDigit rest) :
    (digits ++ rest).takeWhile isDigit = digits ∧ (digits ++ rest).dropWhile isDigit = rest := by
  have stops : rest.takeWhile isDigit = [] ∧ rest.dropWhile isDigit = rest := by
    cases rest with
    | nil => exact ⟨rfl, rfl⟩
    | cons c rest =>
      have other := ended c rfl
      exact ⟨by simp [other], by simp [other]⟩
  rw [List.takeWhile_append_of_pos allDigits, List.dropWhile_append_of_pos allDigits, stops.1,
    stops.2, List.append_nil]
  exact ⟨rfl, rfl⟩

/-- A number does not start with a zero, unless it is zero. -/
theorem head_toDigits {n : Nat} (positive : 0 < n) :
    ∃ c digits, Nat.toDigits 10 n = c :: digits ∧ c ≠ '0' := by
  induction n using Nat.strongRecOn with
  | _ n ih =>
    rw [Nat.toDigits_eq_if (by decide)]
    split
    case isTrue small => exact ⟨_, _, rfl, by simp; omega⟩
    case isFalse large =>
      obtain ⟨c, digits, first, other⟩ := ih (n / 10) (by omega) (by omega)
      exact ⟨c, digits ++ [_], by rw [first]; rfl, other⟩

theorem wholeDigits_toDigits (n : Nat) {rest : List Char} (ended : Ended rest) :
    wholeDigits (Nat.toDigits 10 n ++ rest) = some (Nat.toDigits 10 n, rest) := by
  obtain rfl | positive := Nat.eq_zero_or_pos n
  · rfl
  · obtain ⟨c, digits, first, other⟩ := head_toDigits positive
    have allDigits (d : Char) (member : d ∈ c :: digits) : isDigit d = true :=
      isDigit_toDigits (first ▸ member)
    have span := span_digits (fun d member => allDigits d (List.mem_cons_of_mem c member))
      ended.noDigit
    rw [first, List.cons_append, wholeDigits]
    · simp [allDigits c (List.mem_cons_self ..), span]
    · simpa using other

/-- What stands behind the digits before a point does not go on with them. -/
def NoFraction (rest : List Char) : Prop := ∀ c ∈ rest.head?, isDigit c = false ∧ c ≠ '.'

theorem Ended.noFraction {rest : List Char} (ended : Ended rest) : NoFraction rest :=
  fun c first => ⟨(ended c first).1, (ended c first).2.1⟩

theorem fractionDigits_ended {rest : List Char} (ended : NoFraction rest) :
    fractionDigits rest = some ([], rest) := by
  rw [fractionDigits]
  rintro left rfl
  exact (ended '.' rfl).2 rfl

theorem exponentPart_ended {rest : List Char} (ended : Ended rest) :
    exponentPart rest = some (none, rest) := by
  cases rest with
  | nil => rfl
  | cons c rest =>
    obtain ⟨-, -, small, large⟩ := ended c rfl
    simp [exponentPart, small, large]

/-- Neither a fraction nor an exponent follows. -/
theorem unsignedLiteral_toDigits (negative : Bool) (n : Nat) {rest : List Char}
    (ended : Ended rest) :
    unsignedLiteral negative (Nat.toDigits 10 n ++ rest) =
      some (⟨negative, Nat.toDigits 10 n, [], none⟩, rest) := by
  simp [unsignedLiteral, wholeDigits_toDigits n ended, fractionDigits_ended ended.noFraction,
    exponentPart_ended ended]

/-- The sign and the digits of a whole number. -/
theorem toText_whole {value : Int}
    (inRange : -0x8000000000000000 ≤ value ∧ value < 0x10000000000000000) :
    (Number.whole value inRange).toText.toList =
      if value < 0 then '-' :: Nat.toDigits 10 value.natAbs else Nat.toDigits 10 value.natAbs := by
  cases value with
  | ofNat n =>
    change n.repr.toList = _
    simp [Nat.toList_repr]
  | negSucc n =>
    change ("-" ++ (n + 1).repr).toList = _
    simp [Nat.toList_repr]

/-- A whole number starts with its sign or with a digit. -/
theorem head_whole {value : Int}
    (inRange : -0x8000000000000000 ≤ value ∧ value < 0x10000000000000000) :
    ∃ c cs, (Number.whole value inRange).toText.toList = c :: cs ∧
      (c = '-' ∨ isDigit c = true) := by
  rw [toText_whole]
  split
  · exact ⟨_, _, rfl, .inl rfl⟩
  · cases digits : Nat.toDigits 10 value.natAbs with
    | nil => exact absurd digits Nat.toDigits_ne_nil
    | cons c cs =>
      have member : c ∈ Nat.toDigits 10 value.natAbs := by simp [digits]
      exact ⟨c, cs, rfl, .inr (isDigit_toDigits member)⟩

/-- A literal of digits alone is a whole number. -/
theorem toNumber?_whole {value : Int}
    (inRange : -0x8000000000000000 ≤ value ∧ value < 0x10000000000000000) :
    Number.Literal.toNumber? ⟨value < 0, Nat.toDigits 10 value.natAbs, [], none⟩ =
      some (.whole value inRange) := by
  have signed : (if decide (value < 0) = true then -(value.natAbs : Int) else value.natAbs) =
      value := by
    by_cases negative : value < 0
    · rw [if_pos (decide_eq_true negative)]
      omega
    · rw [if_neg fun h => negative (of_decide_eq_true h)]
      omega
  have nonzero : decide (value < 0) = true → (value.natAbs : Int) ≠ 0 := by
    simp only [decide_eq_true_eq]
    omega
  simp only [Number.Literal.toNumber?, ofDigits_toDigits, List.isEmpty_nil, Option.isNone_none,
    signed, Number.ofInt?, dif_pos inRange]
  rw [if_pos ⟨trivial, trivial, nonzero⟩]

/-- A written whole number is read back. -/
theorem literal_whole {value : Int}
    (inRange : -0x8000000000000000 ≤ value ∧ value < 0x10000000000000000) {rest : List Char}
    (ended : Ended rest) : ∃ parts,
    literal ((Number.whole value inRange).toText.toList ++ rest) = some (parts, rest) ∧
      parts.toNumber? = some (.whole value inRange) := by
  refine ⟨_, ?_, toNumber?_whole inRange⟩
  have read := unsignedLiteral_toDigits (value < 0) value.natAbs ended
  rw [toText_whole, ← read]
  split
  case isTrue negative => simp [literal, negative]
  case isFalse positive =>
    rw [literal]
    · simp [positive]
    intro left minus
    -- no digit is a minus
    have first : '-' ∈ Nat.toDigits 10 value.natAbs := by
      cases digits : Nat.toDigits 10 value.natAbs with
      | nil => exact absurd digits Nat.toDigits_ne_nil
      | cons c cs =>
        rw [digits, List.cons_append] at minus
        rw [(List.cons.inj minus).1]
        exact List.mem_cons_self ..
    exact absurd (isDigit_toDigits first) (by decide)

end Numbers

end Reconciler.Json
