import Reconciler.Proofs.Json.Literals

/-!
How far a literal goes. A string ends with its closing quote, and a number where no character comes
that could go on with it: what is taken for a literal is the same whatever else comes behind.
-/
namespace Reconciler.Json

variable {cs rest : List Char}

/-- A reader takes all of a text, and no more, whatever comes behind it that may. -/
def Takes {α : Type} (read : List Char → Option (α × List Char)) (text : List Char) (a : α)
    (may : List Char → Prop) : Prop :=
  ∀ next, may next → read (text ++ next) = some (a, next)

/-- Anything may follow. -/
def Anything (_ : List Char) : Prop := True

theorem pieces_cut {ps : List Piece} (read : pieces cs = some (ps, rest)) :
    ∃ text, cs = text ++ rest ∧ Takes pieces text ps Anything := by
  fun_induction pieces cs generalizing ps with
  | case1 | case5 => cases read
  | case2 =>
    cases read
    exact ⟨['"'], rfl, fun _ _ => rfl⟩
  | case3 a b c d tail ih =>
    obtain ⟨code, unit, read⟩ := Option.bind_eq_some_iff.mp read
    obtain ⟨⟨qs, left⟩, later, read⟩ := Option.bind_eq_some_iff.mp read
    cases read
    obtain ⟨text, rfl, taken⟩ := ih later
    refine ⟨'\\' :: 'u' :: a :: b :: c :: d :: text, rfl, fun next _ => ?_⟩
    simp [pieces, unit, taken next trivial]
  | case4 e tail other ih =>
    obtain ⟨c, short, read⟩ := Option.bind_eq_some_iff.mp read
    obtain ⟨⟨qs, left⟩, later, read⟩ := Option.bind_eq_some_iff.mp read
    cases read
    obtain ⟨text, rfl, taken⟩ := ih later
    refine ⟨'\\' :: e :: text, rfl, fun next _ => ?_⟩
    have notUnit : e ≠ 'u' := by
      rintro rfl
      cases short
    simp [pieces, notUnit, short, taken next trivial]
  | case6 c tail quote _ _ plain ih =>
    obtain ⟨⟨qs, left⟩, later, read⟩ := Option.bind_eq_some_iff.mp read
    cases read
    obtain ⟨text, rfl, taken⟩ := ih later
    refine ⟨c :: text, rfl, fun next _ => ?_⟩
    have slash : c ≠ '\\' := by
      rintro rfl
      simp at plain
    simp_all [pieces, taken next trivial]

theorem stringTail_cut {name : Option String} (read : stringTail cs = some (name, rest)) :
    ∃ text, cs = text ++ rest ∧ Takes stringTail text name Anything := by
  obtain ⟨⟨ps, left⟩, inside, read⟩ := Option.bind_eq_some_iff.mp read
  cases read
  obtain ⟨text, rfl, taken⟩ := pieces_cut inside
  refine ⟨text, rfl, fun next any => ?_⟩
  simp [stringTail, taken next any]

theorem wholeDigits_cut {digits : List Char} (read : wholeDigits cs = some (digits, rest)) :
    ∃ c text, isDigit c = true ∧ cs = c :: text ++ rest ∧
      Takes wholeDigits (c :: text) digits NoDigit := by
  fun_cases wholeDigits cs with
  | case1 left =>
    cases read
    exact ⟨'0', [], by decide, rfl, fun _ _ => rfl⟩
  | case2 c left zero digit =>
    simp only [wholeDigits, digit, if_true, Option.some.injEq, Prod.mk.injEq] at read
    obtain ⟨rfl, rfl⟩ := read
    have allDigits : ∀ d ∈ left.takeWhile isDigit, isDigit d = true :=
      List.all_eq_true.mp List.all_takeWhile
    refine ⟨c, left.takeWhile isDigit, digit, by simp, fun next ended => ?_⟩
    have span := span_digits allDigits ended
    simp [wholeDigits, digit, span]
  | case3 c left zero other => simp [wholeDigits, other] at read
  | case4 => cases read

theorem head_nil {may : Char → Prop} : ∀ c ∈ ([] : List Char).head?, may c := by
  intro c first
  cases first

/-- What holds of the first character of two texts holds of that of both together. -/
theorem head_append {may : Char → Prop} {text next : List Char} (first : ∀ c ∈ text.head?, may c)
    (later : ∀ c ∈ next.head?, may c) : ∀ c ∈ (text ++ next).head?, may c := by
  cases text with
  | nil => exact later
  | cons => exact first

theorem takeWhile_isDigit (cs : List Char) : ∀ c ∈ cs.takeWhile isDigit, isDigit c = true :=
  List.all_eq_true.mp List.all_takeWhile

theorem fractionDigits_cut {digits : List Char} (read : fractionDigits cs = some (digits, rest)) :
    ∃ text, cs = text ++ rest ∧ (∀ c ∈ text.head?, c = '.') ∧
      Takes fractionDigits text digits NoFraction := by
  unfold fractionDigits at read
  split at read
  case h_1 left =>
    dsimp only at read
    split at read
    case isTrue => cases read
    case isFalse given =>
      cases read
      refine ⟨'.' :: left.takeWhile isDigit, by simp, by simp, fun next ended => ?_⟩
      have span := span_digits (takeWhile_isDigit left) fun c first => (ended c first).1
      simp only [List.cons_append, fractionDigits, span]
      exact if_neg given
  case h_2 =>
    cases read
    exact ⟨[], rfl, head_nil, fun next ended => fractionDigits_ended ended⟩

theorem exponentDigits_cut {negative : Bool} {exponent : Option (Bool × List Char)}
    (read : exponentDigits negative cs = some (exponent, rest)) :
    ∃ c text, isDigit c = true ∧ cs = c :: text ++ rest ∧
      Takes (exponentDigits negative) (c :: text) exponent NoDigit := by
  rw [exponentDigits] at read
  split at read
  case isTrue => cases read
  case isFalse given =>
    cases read
    have allDigits := takeWhile_isDigit cs
    have some : cs.takeWhile isDigit ≠ [] := fun none => given (List.isEmpty_iff.mpr none)
    obtain ⟨c, text, digits⟩ := List.exists_cons_of_ne_nil some
    have first : c ∈ cs.takeWhile isDigit := digits ▸ List.mem_cons_self ..
    refine ⟨c, text, allDigits c first, ?_, fun next ended => ?_⟩
    · rw [← digits, List.takeWhile_append_dropWhile]
    · have span := span_digits allDigits ended
      rw [← digits, exponentDigits, span.1, span.2, if_neg given]

theorem exponentPart_cut {exponent : Option (Bool × List Char)}
    (read : exponentPart cs = some (exponent, rest)) :
    ∃ text, cs = text ++ rest ∧ (∀ c ∈ text.head?, c = 'e' ∨ c = 'E') ∧
      Takes exponentPart text exponent Ended := by
  unfold exponentPart at read
  split at read
  case h_1 c left =>
    split at read
    case isTrue mark =>
      have first : ∀ d ∈ (c :: left).head?, d = 'e' ∨ d = 'E' := by simpa using mark
      split at read
      case h_1 | h_2 =>
        obtain ⟨d, text, -, rfl, taken⟩ := exponentDigits_cut read
        refine ⟨c :: _ :: d :: text, rfl, first, fun next ended => ?_⟩
        simpa [exponentPart, mark] using taken next ended.noDigit
      case h_3 plus minus =>
        obtain ⟨d, text, digit, rfl, taken⟩ := exponentDigits_cut read
        refine ⟨c :: d :: text, rfl, first, fun next ended => ?_⟩
        simp only [List.cons_append, exponentPart, mark, if_true]
        split
        case h_1 sign =>  cases sign; cases digit
        case h_2 sign => cases sign; cases digit
        case h_3 => exact taken next ended.noDigit
    case isFalse mark =>
      cases read
      exact ⟨[], rfl, head_nil, fun next ended => exponentPart_ended ended⟩
  case h_2 =>
    cases read
    exact ⟨[], rfl, head_nil, fun next ended => exponentPart_ended ended⟩

theorem unsignedLiteral_cut {negative : Bool} {parts : Number.Literal}
    (read : unsignedLiteral negative cs = some (parts, rest)) :
    ∃ c text, isDigit c = true ∧ cs = c :: text ++ rest ∧
      Takes (unsignedLiteral negative) (c :: text) parts Ended := by
  simp only [unsignedLiteral, Option.bind_eq_bind, Option.bind_eq_some_iff, Option.pure_def,
    Option.some.injEq, Prod.mk.injEq] at read
  obtain ⟨⟨whole, left⟩, first, ⟨fraction, left'⟩, second, ⟨exponent, left''⟩, third, rfl, rfl⟩ :=
    read
  obtain ⟨c, digits, digit, rfl, whole⟩ := wholeDigits_cut first
  obtain ⟨point, rfl, opensPoint, fraction⟩ := fractionDigits_cut second
  obtain ⟨mark, rfl, opensMark, exponent⟩ := exponentPart_cut third
  refine ⟨c, digits ++ (point ++ mark), digit, by simp, fun next ended => ?_⟩
  have behindPoint : NoFraction (mark ++ next) := by
    refine head_append (fun d opens => ?_) ended.noFraction
    obtain rfl | rfl := opensMark d opens <;> decide
  have behindWhole : NoDigit (point ++ (mark ++ next)) := by
    refine head_append (fun d opens => ?_) fun d opens => (behindPoint d opens).1
    obtain rfl := opensPoint d opens
    decide
  have whole := whole _ behindWhole
  simp only [List.cons_append, List.append_assoc] at whole ⊢
  simp [unsignedLiteral, whole, fraction _ behindPoint, exponent _ ended]

theorem literal_cut {parts : Number.Literal} (read : literal cs = some (parts, rest)) :
    ∃ c text, (c = '-' ∨ isDigit c = true) ∧ cs = c :: text ++ rest ∧
      Takes literal (c :: text) parts Ended := by
  unfold literal at read
  split at read
  case h_1 =>
    obtain ⟨c, text, -, rfl, taken⟩ := unsignedLiteral_cut read
    exact ⟨'-', c :: text, .inl rfl, rfl, taken⟩
  case h_2 =>
    obtain ⟨c, text, digit, rfl, taken⟩ := unsignedLiteral_cut read
    refine ⟨c, text, .inr digit, rfl, fun next ended => ?_⟩
    rw [List.cons_append, literal]
    · exact taken next ended
    · -- no digit is a minus
      intro left minus
      cases minus
      cases digit

end Reconciler.Json
