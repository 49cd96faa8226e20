/-!
Shortest decimals. A positive finite binary64 number is `mantissa · 2 ^ exponent`; of the decimals
that round back to it, `Binary64.shortest` takes one with the fewest digits, and among those the
nearest. All arithmetic is exact, on natural numbers.

Covers how the JSON library writes a float.
-/
namespace Reconciler.Json

/-- A non-negative binary64 number `mantissa · 2 ^ (scale - 1077)`. The two spare powers of two let
the halfway points to both neighbours be written as whole numbers. -/
structure Binary64 where
  mantissa : Nat
  scale : Nat
  /-- The neighbour below is only half as far away as the neighbour above. -/
  closeBelow : Bool

namespace Binary64

/-- Reads the 63 bits below the sign. -/
def ofBits (bits : UInt64) : Binary64 :=
  let field := (bits >>> 52 &&& 0x7ff).toNat
  let fraction := (bits &&& 0xfffffffffffff).toNat
  if field = 0 then ⟨4 * fraction, 1, false⟩
  else ⟨4 * (fraction + 0x10000000000000), field, fraction = 0 && field > 1⟩

/-- The digits of a decimal, as a natural number, and the power of ten they count. -/
structure Decimal where
  digits : Nat
  exponent : Int

/-- Numerator and denominator of a number of quarter units. -/
def fraction (x : Binary64) (quarters : Nat) : Nat × Nat :=
  if x.scale ≥ 1077 then (quarters * Nat.pow 2 (x.scale - 1077), 1)
  else (quarters, Nat.pow 2 (1077 - x.scale))

/-- The largest `p` with `10 ^ p ≤ num / den`, found by counting digits above one and by
multiplying up below one. -/
def decade (num den : Nat) : Int :=
  if num ≥ den then ((Nat.toDigits 10 (num / den)).length : Int) - 1
  else below 400 1 num
where
  below : Nat → Nat → Nat → Int
    | 0, k, _ => -(k : Int)
    | fuel + 1, k, n => if 10 * n ≥ den then -(k : Int) else below fuel (k + 1) (10 * n)

/-- Numerator and denominator after division by `10 ^ exponent`. -/
def perPower (num den : Nat) (exponent : Int) : Nat × Nat :=
  if exponent ≥ 0 then (num, den * Nat.pow 10 exponent.toNat)
  else (num * Nat.pow 10 (-exponent).toNat, den)

/-- The better of the two multiples of `10 ^ exponent` around the number that round back to it. -/
def onGrid (x : Binary64) (exponent : Int) : Option Nat :=
  let scaled (quarters : Nat) : Nat × Nat :=
    let (n, d) := x.fraction quarters
    perPower n d exponent
  let (value, den) := scaled x.mantissa
  let (low, _) := scaled (x.mantissa - if x.closeBelow then 1 else 2)
  let (high, _) := scaled (x.mantissa + 2)
  let closed := x.mantissa / 4 % 2 = 0
  let fits (d : Nat) : Bool :=
    if closed then low ≤ d * den && d * den ≤ high else low < d * den && d * den < high
  let floor := value / den
  match fits floor, fits (floor + 1) with
  | true, false => some floor
  | false, true => some (floor + 1)
  | false, false => none
  | true, true =>
    let left := value - floor * den
    let right := (floor + 1) * den - value
    if left < right then some floor
    else if right < left then some (floor + 1)
    else if floor % 2 = 0 then some floor else some (floor + 1)

/-- Tries one digit more on every turn; seventeen always suffice. -/
def search (x : Binary64) (top : Int) : Nat → Nat → Decimal
  | 0, count => ⟨x.mantissa, top - count⟩
  | fuel + 1, count =>
    let exponent := top - count + 1
    match x.onGrid exponent with
    | some d => ⟨d, exponent⟩
    | none => search x top fuel (count + 1)

/-- Drops zeros at the end of the digits. -/
def Decimal.trim (d : Decimal) : Nat → Decimal
  | 0 => d
  | fuel + 1 =>
    if d.digits % 10 = 0 ∧ d.digits ≠ 0 then
      Decimal.trim ⟨d.digits / 10, d.exponent + 1⟩ fuel
    else d

def shortest (x : Binary64) : Decimal :=
  let (num, den) := x.fraction x.mantissa
  (x.search (decade num den) 17 1).trim 17

end Binary64

/-- The form of a decimal with the digits `ds` times `10 ^ exponent`: positional between `1e-5` and
`1e16`, always with a fraction, and scientific elsewhere, with the sign of the exponent written. -/
def Binary64.Decimal.toText (d : Binary64.Decimal) : String :=
  let ds := Nat.toDigits 10 d.digits
  let count : Int := ds.length
  let point := count + d.exponent
  let zeros (n : Int) : List Char := List.replicate n.toNat '0'
  if 0 ≤ d.exponent ∧ point ≤ 16 then String.ofList (ds ++ zeros d.exponent ++ ['.', '0'])
  else if 0 < point ∧ point ≤ 16 then
    String.ofList (ds.take point.toNat ++ '.' :: ds.drop point.toNat)
  else if -5 < point ∧ point ≤ 0 then String.ofList ('0' :: '.' :: zeros (-point) ++ ds)
  else
    let mantissa := match ds with
      | [] => []
      | [c] => [c]
      | c :: cs => c :: '.' :: cs
    String.ofList mantissa ++ (if point > 0 then "e+" else "e") ++ toString (point - 1)

/-- The text of a finite binary64 number given by its bits. -/
def binary64Text (bits : UInt64) : String :=
  let magnitude := bits &&& 0x7fffffffffffffff
  let sign := if bits = magnitude then "" else "-"
  if magnitude = 0 then sign ++ "0.0"
  else sign ++ (Binary64.ofBits magnitude).shortest.toText

end Reconciler.Json
