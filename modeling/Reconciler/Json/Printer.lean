import Reconciler.Json.Basic

/-!
Writing JSON texts, compact or indented by two blanks a level. Writers put their characters in front
of what follows, so that a written value is easy to read off the front of a text.

Covers `to_string` and `to_string_pretty` of the JSON library.
-/
namespace Reconciler.Json

def hexDigit (n : Nat) : Char := (Nat.digitChar n)

/-- A character inside a string literal. Quotes, backslashes and control characters are escaped. -/
def escaped (c : Char) (rest : List Char) : List Char :=
  if c = '"' then '\\' :: '"' :: rest
  else if c = '\\' then '\\' :: '\\' :: rest
  else if c = '\x08' then '\\' :: 'b' :: rest
  else if c = '\x0c' then '\\' :: 'f' :: rest
  else if c = '\n' then '\\' :: 'n' :: rest
  else if c = '\r' then '\\' :: 'r' :: rest
  else if c = '\t' then '\\' :: 't' :: rest
  else if c < ' ' then
    '\\' :: 'u' :: '0' :: '0' :: hexDigit (c.toNat / 16) :: hexDigit (c.toNat % 16) :: rest
  else c :: rest

def writeString (text : String) (rest : List Char) : List Char :=
  '"' :: text.toList.foldr escaped ('"' :: rest)

mutual

/-- The value without any blanks. -/
def write : Json → List Char → List Char
  | .null, rest => 'n' :: 'u' :: 'l' :: 'l' :: rest
  | .bool true, rest => 't' :: 'r' :: 'u' :: 'e' :: rest
  | .bool false, rest => 'f' :: 'a' :: 'l' :: 's' :: 'e' :: rest
  | .number n, rest => n.toText.toList ++ rest
  | .string s, rest => writeString s rest
  | .array [], rest => '[' :: ']' :: rest
  | .array (x :: xs), rest => '[' :: write x (writeItems xs rest)
  | .object [], rest => '{' :: '}' :: rest
  | .object ((k, x) :: ms), rest => '{' :: writeString k (':' :: write x (writeMembers ms rest))

/-- The items after the first and the closing bracket. -/
def writeItems : List Json → List Char → List Char
  | [], rest => ']' :: rest
  | x :: xs, rest => ',' :: write x (writeItems xs rest)

/-- The members after the first and the closing brace. -/
def writeMembers : List (String × Json) → List Char → List Char
  | [], rest => '}' :: rest
  | (k, x) :: ms, rest => ',' :: writeString k (':' :: write x (writeMembers ms rest))

end

/-- A line break and the blanks of a level. -/
def newline (level : Nat) (rest : List Char) : List Char :=
  '\n' :: (List.replicate (2 * level) ' ' ++ rest)

mutual

/-- The value with every item and member on a line of its own; empty containers stay closed. -/
def writeIndented (level : Nat) : Json → List Char → List Char
  | .array (x :: xs), rest =>
    '[' :: newline (level + 1)
      (writeIndented (level + 1) x (writeIndentedItems level xs rest))
  | .object ((k, x) :: ms), rest =>
    '{' :: newline (level + 1) (writeString k
      (':' :: ' ' :: writeIndented (level + 1) x (writeIndentedMembers level ms rest)))
  | .array [], rest => '[' :: ']' :: rest
  | .object [], rest => '{' :: '}' :: rest
  | .null, rest => 'n' :: 'u' :: 'l' :: 'l' :: rest
  | .bool true, rest => 't' :: 'r' :: 'u' :: 'e' :: rest
  | .bool false, rest => 'f' :: 'a' :: 'l' :: 's' :: 'e' :: rest
  | .number n, rest => n.toText.toList ++ rest
  | .string s, rest => writeString s rest

def writeIndentedItems (level : Nat) : List Json → List Char → List Char
  | [], rest => newline level (']' :: rest)
  | x :: xs, rest =>
    ',' :: newline (level + 1)
      (writeIndented (level + 1) x (writeIndentedItems level xs rest))

def writeIndentedMembers (level : Nat) : List (String × Json) → List Char → List Char
  | [], rest => newline level ('}' :: rest)
  | (k, x) :: ms, rest =>
    ',' :: newline (level + 1) (writeString k
      (':' :: ' ' :: writeIndented (level + 1) x (writeIndentedMembers level ms rest)))

end

def compact (value : Json) : String := String.ofList (value.write [])

def indented (value : Json) : String := String.ofList (writeIndented 0 value [])

end Reconciler.Json
