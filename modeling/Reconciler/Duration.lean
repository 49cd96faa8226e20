/-!
The text of a time span. Spans are counted in milliseconds throughout.

Covers how a `Duration` shows in a message.
-/
namespace Reconciler

/-- Drops zeros at the end of a fraction. -/
def trimZeros (digits : List Char) : List Char := (digits.reverse.dropWhile (· == '0')).reverse

/-- Whole seconds carry the unit `s` and up to three places; shorter spans are told in `ms`, and
nothing at all in `ns`. -/
def durationText (ms : Nat) : String :=
  if ms = 0 then "0ns"
  else if ms < 1000 then toString ms ++ "ms"
  else
    let digits := (Nat.toDigits 10 (1000 + ms % 1000)).drop 1
    match trimZeros digits with
    | [] => toString (ms / 1000) ++ "s"
    | places => toString (ms / 1000) ++ "." ++ String.ofList places ++ "s"

end Reconciler
