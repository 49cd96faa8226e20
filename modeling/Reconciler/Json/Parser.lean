import Reconciler.Json.Basic

/-!
Reading JSON texts. The reader is strict: one value, blanks around it, nothing else. It works on a
list of characters and returns what is left; every step needs a little fuel, and `Parsed.ofText?`
supplies as much as a text of its length can use.

Covers `from_str` of the JSON library, apart from what it says about a text that it refuses.
-/
namespace Reconciler.Json

def isBlank (c : Char) : Bool := c == ' ' || c == '\t' || c == '\n' || c == '\r'

def isDigit (c : Char) : Bool := '0' ≤ c && c ≤ '9'

def skipBlanks (cs : List Char) : List Char := cs.dropWhile isBlank

/-- A part of a string literal: a character, or one 16-bit unit given by its four digits. -/
inductive Piece
  | char (c : Char)
  | unit (code : Nat)

def hexValue (c : Char) : Option Nat :=
  if isDigit c then some (c.toNat - '0'.toNat)
  else if 'a' ≤ c ∧ c ≤ 'f' then some (c.toNat - 'a'.toNat + 10)
  else if 'A' ≤ c ∧ c ≤ 'F' then some (c.toNat - 'A'.toNat + 10)
  else none

def hexUnit (a b c d : Char) : Option Nat := do
  let a ← hexValue a
  let b ← hexValue b
  let c ← hexValue c
  let d ← hexValue d
  return ((16 * a + b) * 16 + c) * 16 + d

/-- What a backslash and one more character stand for. -/
def shortEscape : Char → Option Char
  | '"' => some '"'
  | '\\' => some '\\'
  | '/' => some '/'
  | 'b' => some '\x08'
  | 'f' => some '\x0c'
  | 'n' => some '\n'
  | 'r' => some '\r'
  | 't' => some '\t'
  | _ => none

/-- The pieces of a string literal up to its closing quote, and what follows. Control characters
have to be escaped. -/
def pieces : List Char → Option (List Piece × List Char)
  | [] => none
  | '"' :: rest => some ([], rest)
  | '\\' :: 'u' :: a :: b :: c :: d :: rest => do
    let code ← hexUnit a b c d
    let (ps, rest) ← pieces rest
    return (.unit code :: ps, rest)
  | '\\' :: e :: rest => do
    let c ← shortEscape e
    let (ps, rest) ← pieces rest
    return (.char c :: ps, rest)
  | c :: rest =>
    if c == '\\' || c < ' ' then none else do
      let (ps, rest) ← pieces rest
      return (.char c :: ps, rest)

def isHighSurrogate (code : Nat) : Bool := 0xd800 ≤ code && code < 0xdc00

def isLowSurrogate (code : Nat) : Bool := 0xdc00 ≤ code && code < 0xe000

def pairCode (high low : Nat) : Nat := 0x10000 + (high - 0xd800) * 0x400 + (low - 0xdc00)

/-- The characters that pieces stand for: the two halves of a surrogate pair make one, and a half
alone makes none. -/
def assemble : List Piece → Option (List Char)
  | [] => some []
  | .char c :: ps => (c :: ·) <$> assemble ps
  | .unit high :: .unit low :: ps =>
    if isHighSurrogate high then
      if isLowSurrogate low then (Char.ofNat (pairCode high low) :: ·) <$> assemble ps else none
    else if isLowSurrogate high then none
    else (Char.ofNat high :: ·) <$> assemble (.unit low :: ps)
  | .unit code :: ps =>
    if isHighSurrogate code || isLowSurrogate code then none
    else (Char.ofNat code :: ·) <$> assemble ps

/-- The fraction of a literal, empty when there is no point. -/
def fractionDigits : List Char → Option (List Char × List Char)
  | '.' :: rest =>
    let digits := rest.takeWhile isDigit
    if digits.isEmpty then none else some (digits, rest.dropWhile isDigit)
  | rest => some ([], rest)

def exponentDigits (negative : Bool) (cs : List Char) :
    Option (Option (Bool × List Char) × List Char) :=
  let digits := cs.takeWhile isDigit
  if digits.isEmpty then none else some (some (negative, digits), cs.dropWhile isDigit)

/-- The exponent of a literal with its sign. -/
def exponentPart : List Char → Option (Option (Bool × List Char) × List Char)
  | c :: rest =>
    if c == 'e' || c == 'E' then
      match rest with
      | '+' :: rest => exponentDigits false rest
      | '-' :: rest => exponentDigits true rest
      | rest => exponentDigits false rest
    else some (none, c :: rest)
  | [] => some (none, [])

/-- The digits before the point: a lone zero, or digits that do not start with zero. -/
def wholeDigits : List Char → Option (List Char × List Char)
  | '0' :: rest => some (['0'], rest)
  | c :: rest =>
    if isDigit c then some (c :: rest.takeWhile isDigit, rest.dropWhile isDigit) else none
  | [] => none

def unsignedLiteral (negative : Bool) (cs : List Char) : Option (Number.Literal × List Char) := do
  let (whole, rest) ← wholeDigits cs
  let (fraction, rest) ← fractionDigits rest
  let (exponent, rest) ← exponentPart rest
  return (⟨negative, whole, fraction, exponent⟩, rest)

def literal : List Char → Option (Number.Literal × List Char)
  | '-' :: rest => unsignedLiteral true rest
  | rest => unsignedLiteral false rest

/-- A string after its opening quote. -/
def stringTail (cs : List Char) : Option (Option String × List Char) := do
  let (ps, rest) ← pieces cs
  return ((assemble ps).map String.ofList, rest)

mutual

/-- One value and what follows it. -/
def value : Nat → List Char → Option (Parsed × List Char)
  | 0, _ => none
  | fuel + 1, cs =>
    match skipBlanks cs with
    | 'n' :: 'u' :: 'l' :: 'l' :: rest => some (.null, rest)
    | 't' :: 'r' :: 'u' :: 'e' :: rest => some (.bool true, rest)
    | 'f' :: 'a' :: 'l' :: 's' :: 'e' :: rest => some (.bool false, rest)
    | '"' :: rest => do
      let (text, rest) ← stringTail rest
      return (.string text, rest)
    | '[' :: rest =>
      match skipBlanks rest with
      | ']' :: rest => some (.array [], rest)
      | rest => do
        let (items, rest) ← items fuel rest
        return (.array items, rest)
    | '{' :: rest =>
      match skipBlanks rest with
      | '}' :: rest => some (.object [], rest)
      | rest => do
        let (members, rest) ← members fuel rest
        return (.object members, rest)
    | rest => do
      let (parts, rest) ← literal rest
      return (.number parts.toNumber?, rest)

/-- The items of an array up to its closing bracket; there is at least one. -/
def items : Nat → List Char → Option (List Parsed × List Char)
  | 0, _ => none
  | fuel + 1, cs => do
    let (first, rest) ← value fuel cs
    match skipBlanks rest with
    | ',' :: rest =>
      let (others, rest) ← items fuel rest
      return (first :: others, rest)
    | ']' :: rest => return ([first], rest)
    | _ => none

/-- The members of an object up to its closing brace; there is at least one. -/
def members : Nat → List Char → Option (List (Option String × Parsed) × List Char)
  | 0, _ => none
  | fuel + 1, cs =>
    match skipBlanks cs with
    | '"' :: rest => do
      let (name, rest) ← stringTail rest
      match skipBlanks rest with
      | ':' :: rest =>
        let (first, rest) ← value fuel rest
        match skipBlanks rest with
        | ',' :: rest =>
          let (others, rest) ← members fuel rest
          return ((name, first) :: others, rest)
        | '}' :: rest => return ([(name, first)], rest)
        | _ => none
      | _ => none
    | _ => none

end

end Reconciler.Json

namespace Reconciler

/-- The value that a text consists of, with nothing but blanks around it. -/
def Parsed.ofText? (text : String) : Option Parsed := do
  let cs := text.toList
  let (value, rest) ← Json.value (2 * cs.length + 2) cs
  if (Json.skipBlanks rest).isEmpty then some value else none

end Reconciler
