import Tunnel.Text.Quoted

/-!
# Writing JSON

Strings escape quotes, backslashes and the controls below the space, and nothing else.

## Main definitions

* `writeString` — a string between quotes.
* `writeTexts` — a list of strings, one on each line.
-/

namespace Tunnel.Json

/-- The two hexadecimal digits of a control character. -/
def hexPair (n : Nat) : List Char := [Nat.digitChar (n / 16), Nat.digitChar (n % 16)]

/-- How one character is written between quotes. -/
def writeChar (c : Char) : List Char :=
  if c = '"' then ['\\', '"']
  else if c = '\\' then ['\\', '\\']
  else if c = '\x08' then ['\\', 'b']
  else if c = '\t' then ['\\', 't']
  else if c = '\n' then ['\\', 'n']
  else if c = '\x0c' then ['\\', 'f']
  else if c = '\r' then ['\\', 'r']
  else if c.toNat < 0x20 then '\\' :: 'u' :: '0' :: '0' :: hexPair c.toNat
  else [c]

def writeString (s : String) : List Char := '"' :: (s.toList.flatMap writeChar ++ ['"'])

def writeNatural (n : UInt64) : List Char := (toString n.toNat).toList

/-- Pieces with a comma and a line break between them. -/
def joinLines : List (List Char) → List Char
  | [] => []
  | [piece] => piece
  | piece :: rest => piece ++ ',' :: '\n' :: joinLines rest

/-- A list of strings at an indentation of two. -/
def writeTexts : List String → List Char
  | [] => ['[', ']']
  | xs => '[' :: '\n' :: (joinLines (xs.map fun s => "    ".toList ++ writeString s)
      ++ '\n' :: "  ]".toList)

end Tunnel.Json
