import Reconciler.Json.Shortest

/-!
Numbers of a JSON text. A literal without fraction and exponent stays a whole number as long as it
fits 64 bits; every other literal becomes a binary64 number, and one too large for that is refused.

Covers `Number` of the JSON library as it reads where it is not asked to read floats exactly.
-/
namespace Reconciler.Json

/-- The exponent field of a binary64 number that is neither infinite nor undefined. -/
def isFinite (bits : UInt64) : Bool := bits >>> 52 &&& 0x7ff != 0x7ff

inductive Number
  | whole (value : Int) (inRange : -0x8000000000000000 ≤ value ∧ value < 0x10000000000000000)
  | real (bits : UInt64) (finite : isFinite bits = true)
  deriving DecidableEq

namespace Number

def ofInt? (value : Int) : Option Number :=
  if h : -0x8000000000000000 ≤ value ∧ value < 0x10000000000000000 then some (.whole value h)
  else none

def ofFloat? (value : Float) : Option Number :=
  if h : isFinite value.toBits = true then some (.real value.toBits h) else none

def ofUInt64 (value : UInt64) : Number :=
  .whole value.toNat (by have := value.toNat_lt; omega)

instance : Coe UInt64 Number := ⟨ofUInt64⟩

/-- Whole numbers are compared with whole numbers only. The two zeros of binary64 are equal. -/
def same : Number → Number → Bool
  | .whole a _, .whole b _ => a == b
  | .real a _, .real b _ => a == b || (a <<< 1 == 0 && b <<< 1 == 0)
  | _, _ => false

theorem same_refl (n : Number) : n.same n = true := by
  cases n <;> simp [same]

/-- A decimal literal, cut into its parts. -/
structure Literal where
  negative : Bool
  whole : List Char
  fraction : List Char
  /-- Sign (`true` when negative) and digits of the exponent. -/
  exponent : Option (Bool × List Char)

def digitValue (c : Char) : Nat := c.toNat - '0'.toNat

def ofDigits (cs : List Char) : Nat := cs.foldl (fun n c => 10 * n + digitValue c) 0

/-- Reads digits as long as the number stays below `2 ^ 64`; also tells how many were left. -/
def significand (start : Nat) : List Char → Nat × Nat
  | [] => (start, 0)
  | c :: cs =>
    let next := 10 * start + digitValue c
    if next < UInt64.size then significand next cs else (start, cs.length + 1)

/-- Divides by `10 ^ k` in steps that binary64 can hold. -/
def divideByPower (value : Float) (k : Nat) : Float :=
  if k ≤ 308 then value / Float.ofScientific 1 false k
  else if value == 0 then value
  else divideByPower (value / 1e308) (k - 308)
termination_by k

/-- `significand · 10 ^ exponent`, with one rounding for each step. -/
def scale (significand : Nat) (exponent : Int) : Option Float :=
  let value := significand.toUInt64.toFloat
  if exponent < 0 then some (divideByPower value exponent.natAbs)
  else if exponent ≤ 308 then some (value * Float.ofScientific 1 false exponent.toNat)
  else if value == 0 then some value
  else none

/-- Digits beyond the first 64 bits count only by their place. An exponent of 2 ^ 31 or more is
infinite: upwards it is refused, downwards it makes the number zero. -/
def Literal.magnitude (l : Literal) : Option Float :=
  let (upper, dropped) := significand 0 l.whole
  let (digits, left) := significand upper l.fraction
  let place : Int := dropped - (l.fraction.length - left : Nat)
  match l.exponent with
  | none => scale digits place
  | some (negative, exponent) =>
    let shift := ofDigits exponent
    if shift ≥ 0x80000000 then
      if digits ≠ 0 ∧ !negative then none else some 0
    else scale digits (if negative then place - shift else place + shift)

def Literal.toNumber? (l : Literal) : Option Number :=
  let n : Int := ofDigits l.whole
  let real := l.magnitude.bind fun x => ofFloat? (if l.negative then -x else x)
  if l.fraction.isEmpty ∧ l.exponent.isNone ∧ (l.negative → n ≠ 0) then
    match ofInt? (if l.negative then -n else n) with
    | some whole => some whole
    | none => real
  else real

/-- The text of a number: whole numbers in plain digits, others as the shortest decimal. -/
def toText : Number → String
  | .whole value _ => toString value
  | .real bits _ => binary64Text bits

end Number

end Reconciler.Json
