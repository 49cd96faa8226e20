import Reconciler.Json.Parser

/-!
Identifiers as a scripted world hands them out. Those of one world begin alike and end in their
number. How they begin is drawn from a text; when that text holds all that the world is made from,
nothing in the world meets an identifier before it is handed out, but by chance.
-/
namespace Reconciler

structure Identifiers where
  /-- How all of them begin. -/
  stem : List Char

namespace Identifiers

/-- A number in hexadecimal digits, with zeros in front up to a width. -/
def hex (width n : Nat) : List Char :=
  let digits := Nat.toDigits 16 n
  List.replicate (width - digits.length) '0' ++ digits

/-- A number drawn from a text: each character is mixed in, and a multiplication spreads it. -/
def draw (text : String) : UInt64 :=
  text.foldl (fun drawn c => (drawn ^^^ c.val.toUInt64) * 0x100000001b3) 0xcbf29ce484222325

def ofText (text : String) : Identifiers := ⟨hex 16 (draw text).toNat ++ ['-']⟩

/-- Hexadecimal digits of the number in which an identifier ends. -/
def digits : Nat := 12

/-- The characters of the n-th identifier. -/
def spelling (ids : Identifiers) (n : Nat) : List Char := ids.stem ++ hex digits n

/-- The n-th identifier. -/
def nth (ids : Identifiers) (n : Nat) : String := String.ofList (ids.spelling n)

/-- The number of the identifier at the start of a text, if it is one of the first `count`. -/
def number? (ids : Identifiers) (count : Nat) (cs : List Char) : Option Nat :=
  if ids.stem.isPrefixOf cs then
    let ending := (cs.drop ids.stem.length).take digits
    let n := ending.foldl (fun n c => 16 * n + (Json.hexValue c).getD 0) 0
    if 1 ≤ n ∧ n ≤ count ∧ ending = hex digits n then some n else none
  else none

end Identifiers

end Reconciler
