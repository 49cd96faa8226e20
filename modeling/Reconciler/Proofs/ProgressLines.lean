import Reconciler.Progress.Lines
import Reconciler.Proofs.Json.Recovery

/-!
Progress as lines of text. A compact text has no line break in it, whatever texts stand in its
value. So what is printed for some notices falls apart at its line breaks into one line for each of
them, and every line tells which notice it was printed for.
-/
namespace Reconciler

namespace Json

/-- A writer that adds no line break to what follows. -/
def Unbroken (write : List Char → List Char) : Prop :=
  ∀ rest, '\n' ∈ write rest → '\n' ∈ rest

theorem Unbroken.cons {c : Char} {write : List Char → List Char} (other : '\n' ≠ c)
    (unbroken : Unbroken write) : Unbroken fun rest => c :: write rest := by
  intro rest broken
  rcases List.mem_cons.mp broken with here | later
  · exact absurd here other
  · exact unbroken rest later

theorem Unbroken.comp {first second : List Char → List Char} (unbroken : Unbroken first)
    (unbroken' : Unbroken second) : Unbroken fun rest => first (second rest) :=
  fun rest broken => unbroken' rest (unbroken _ broken)

theorem Unbroken.append {cs : List Char} (none : '\n' ∉ cs) : Unbroken (cs ++ ·) :=
  fun _ broken => (List.mem_append.mp broken).resolve_left none

theorem newline_ne_hexDigit : ∀ n < 16, '\n' ≠ hexDigit n := by decide

/-- A line break inside a string is written without one. -/
theorem escaped_unbroken (c : Char) : Unbroken (escaped c) := by
  intro rest broken
  by_cases line : '\n' = c
  · subst line
    simpa [escaped] using broken
  by_cases control : c < ' '
  · have small : c.toNat < 32 := control
    have upper := newline_ne_hexDigit (c.toNat / 16) (by omega)
    have lower := newline_ne_hexDigit (c.toNat % 16) (by omega)
    simp only [escaped, control, if_true] at broken
    repeat' split at broken
    all_goals simpa [upper, lower] using broken
  · simp only [escaped, control, if_false] at broken
    repeat' split at broken
    all_goals simpa [line] using broken

theorem writeString_unbroken (text : String) : Unbroken (writeString text) := by
  have inside (cs : List Char) : Unbroken fun rest => cs.foldr escaped ('"' :: rest) := by
    induction cs with
    | nil => exact .append (by decide : '\n' ∉ ['"'])
    | cons c cs ih => exact .comp (escaped_unbroken c) ih
  exact .cons (by decide) (inside text.toList)

theorem whole_unbroken {value : Int}
    (inRange : -0x8000000000000000 ≤ value ∧ value < 0x10000000000000000) :
    Unbroken ((Number.whole value inRange).toText.toList ++ ·) := by
  have digits : '\n' ∉ Nat.toDigits 10 value.natAbs := fun among =>
    absurd (isDigit_toDigits among) (by decide)
  apply Unbroken.append
  rw [toText_whole]
  split
  · simp [digits]
  · exact digits

mutual

theorem write_unbroken : (v : Json) → v.isWhole = true → Unbroken v.write
  | .null, _ => .append (by decide : '\n' ∉ ['n', 'u', 'l', 'l'])
  | .bool true, _ => .append (by decide : '\n' ∉ ['t', 'r', 'u', 'e'])
  | .bool false, _ => .append (by decide : '\n' ∉ ['f', 'a', 'l', 's', 'e'])
  | .number (.whole _ inRange), _ => whole_unbroken inRange
  | .string text, _ => writeString_unbroken text
  | .array [], _ => .append (by decide : '\n' ∉ ['[', ']'])
  | .array (first :: others), whole => by
    obtain ⟨first, others⟩ := Bool.and_eq_true_iff.mp whole
    exact .cons (by decide) (.comp (write_unbroken _ first) (writeItems_unbroken _ others))
  | .object [], _ => .append (by decide : '\n' ∉ ['{', '}'])
  | .object ((name, first) :: others), whole => by
    obtain ⟨first, others⟩ := Bool.and_eq_true_iff.mp whole
    exact .cons (by decide) (.comp (writeString_unbroken name) (.cons (by decide)
      (.comp (write_unbroken _ first) (writeMembers_unbroken _ others))))

theorem writeItems_unbroken : (items : List Json) → areWhole items = true →
    Unbroken (writeItems items)
  | [], _ => .append (by decide : '\n' ∉ [']'])
  | item :: rest, whole => by
    obtain ⟨first, others⟩ := Bool.and_eq_true_iff.mp whole
    exact .cons (by decide) (.comp (write_unbroken item first) (writeItems_unbroken rest others))

theorem writeMembers_unbroken : (members : List (String × Json)) → haveWhole members = true →
    Unbroken (writeMembers members)
  | [], _ => .append (by decide : '\n' ∉ ['}'])
  | (name, value) :: rest, whole => by
    obtain ⟨first, others⟩ := Bool.and_eq_true_iff.mp whole
    exact .cons (by decide) (.comp (writeString_unbroken name) (.cons (by decide)
      (.comp (write_unbroken value first) (writeMembers_unbroken rest others))))

end

/-- A compact text is one line. -/
theorem newline_notMem_compact {v : Json} (whole : v.isWhole = true) : '\n' ∉ v.compact.toList := by
  intro broken
  rw [compact, String.toList_ofList] at broken
  exact absurd (write_unbroken v whole [] broken) List.not_mem_nil

end Json

namespace Notice

/-- The notice that a line tells. The line of a stage says so in its type, the line of a step has
none. -/
def read : Reader Notice := fun depth value => do
  let parts ← Parts.of? ["type", "stage", "step", "state", "message"] depth value
  let stage ← parts.required "stage" Reader.string
  let state ← parts.required "state" Reader.string
  match ← parts.optional "type" Reader.string with
  | some type =>
    if type = "stage" ∧ state = "started" then return .stageStarted stage
    else if type = "stage" ∧ state = "finished" then return .stageFinished stage
    else none
  | none =>
    let state ← [.started, .finished, .skipped, .failed].find?
      fun known : StepState => known.name == state
    let step ← parts.required "step" Reader.string
    let message ← parts.optional "message" Reader.string
    return .step ⟨stage, step, state, message⟩

theorem isWhole_toJson (notice : Notice) : notice.toJson.isWhole = true := by
  rcases notice with stage | stage | ⟨stage, step, state, _ | message⟩ <;> rfl

/-- A line tells its notice. -/
theorem read_compact (notice : Notice) : read.ofText? notice.toJson.compact = some notice := by
  rw [Reader.ofText?, Json.ofText?_compact notice.isWhole_toJson, Option.bind_some]
  rcases notice with stage | stage | ⟨stage, step, _ | _ | _ | _, _ | message⟩ <;> rfl

theorem compact_object (notice : Notice) :
    ∃ members, Parsed.ofText? notice.toJson.compact = some (.object members) := by
  rw [Json.ofText?_compact notice.isWhole_toJson]
  rcases notice with stage | stage | event <;> exact ⟨_, rfl⟩

/-- The lines of what is printed, and nothing behind the last line break. -/
theorem splitOn_lines (notices : List Notice) : (lines notices).toList.splitOn '\n' =
    notices.map (fun notice => notice.toJson.compact.toList) ++ [[]] := by
  induction notices with
  | nil => rfl
  | cons first rest ih =>
    have printed : (lines (first :: rest)).toList =
        first.toJson.compact.toList ++ '\n' :: (lines rest).toList := by
      simp [lines, line]
    rw [printed, List.splitOn_append_cons_self_of_not_mem
      (Json.newline_notMem_compact first.isWhole_toJson), ih]
    rfl

theorem mapM_read (notices : List Notice) :
    (notices.map fun notice => notice.toJson.compact.toList).mapM
      (fun line => read.ofText? (String.ofList line)) = some notices := by
  induction notices with
  | nil => rfl
  | cons first rest ih => simp [ih, read_compact]

/-- What is printed for some notices is one line for each of them, in order. A line is an object
and has no line break in it, and the notices can be read off the lines. -/
theorem lines_tell (notices : List Notice) :
    let printed := (lines notices).toList.splitOn '\n'
    printed = notices.map (fun notice => notice.toJson.compact.toList) ++ [[]] ∧
      (∀ notice ∈ notices, '\n' ∉ notice.toJson.compact.toList ∧
        ∃ members, Parsed.ofText? notice.toJson.compact = some (.object members)) ∧
      printed.dropLast.mapM (fun line => read.ofText? (String.ofList line)) = some notices := by
  intro printed
  have split : printed = _ := splitOn_lines notices
  refine ⟨split, fun notice _ =>
    ⟨Json.newline_notMem_compact notice.isWhole_toJson, notice.compact_object⟩, ?_⟩
  rw [split, List.dropLast_concat]
  exact mapM_read notices

/-- A line break in a name is none in its line, and a step that was passed over for no reason is
told from one that was passed over for an empty one. -/
theorem lines_tell_empty :
    let absent : Notice := .step ⟨"a\nb", "c", .skipped, none⟩
    let empty : Notice := .step ⟨"a\nb", "c", .skipped, some ""⟩
    absent ∈ [absent, empty] ∧ '\n' ∉ absent.toJson.compact.toList ∧
      ((lines [absent, empty]).toList.splitOn '\n').dropLast.mapM
        (fun line => read.ofText? (String.ofList line)) = some [absent, empty] := by
  intro absent empty
  have among : absent ∈ [absent, empty] := List.mem_cons_self ..
  obtain ⟨-, each, told⟩ := lines_tell [absent, empty]
  exact ⟨among, (each absent among).1, told⟩

end Notice

end Reconciler
