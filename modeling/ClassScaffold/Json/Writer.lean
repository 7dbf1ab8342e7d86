import ClassScaffold.Json.Basic

namespace ClassScaffold.Json

def hexDigit (n : Nat) : Char :=
  (Nat.toDigits 16 n).headD '0'

/-- Characters below the blank that have no escape of one letter get one of four digits. -/
def escapeChar (c : Char) : List Char :=
  if c = '"' then ['\\', '"']
  else if c = '\\' then ['\\', '\\']
  else if c = '\n' then ['\\', 'n']
  else if c = '\r' then ['\\', 'r']
  else if c = '\t' then ['\\', 't']
  else if c.toNat = 0x08 then ['\\', 'b']
  else if c.toNat = 0x0c then ['\\', 'f']
  else if c.toNat < 0x20 then
    ['\\', 'u', '0', '0', hexDigit (c.toNat / 16), hexDigit (c.toNat % 16)]
  else [c]

def quoted (s : String) : List Char :=
  '"' :: s.toList.flatMap escapeChar ++ ['"']

/-- The text of a value that is neither a list nor a record. -/
def scalarChars : Json → List Char
  | .null | .list _ | .record _ => ['n', 'u', 'l', 'l']
  | .bool true => ['t', 'r', 'u', 'e']
  | .bool false => ['f', 'a', 'l', 's', 'e']
  | .int n => (toString n).toList
  | .real negative digits exponent =>
    (if negative then ['-'] else []) ++ (toString digits).toList ++ 'e' :: (toString exponent).toList
  | .text s => quoted s
  | .illFormed => ['"', '\\', 'u', 'd', '8', '0', '0', '"']

mutual

/-- The value without any white space. -/
def compactChars : Json → List Char
  | .list items => '[' :: compactItems items ++ [']']
  | .record members => '\x7b' :: compactMembers members ++ ['\x7d']
  | value => scalarChars value

def compactItems : List Json → List Char
  | [] => []
  | [item] => compactChars item
  | item :: rest => compactChars item ++ ',' :: compactItems rest

def compactMembers : List (String × Json) → List Char
  | [] => []
  | [(key, value)] => quoted key ++ ':' :: compactChars value
  | (key, value) :: rest => quoted key ++ ':' :: compactChars value ++ ',' :: compactMembers rest

end

def compact (value : Json) : String :=
  String.ofList value.compactChars

def lineBreak (depth : Nat) : List Char :=
  '\n' :: List.replicate (2 * depth) ' '

mutual

/-- The value with every item and member on a line of its own, two blanks deeper than the
brackets around it. -/
def prettyChars (depth : Nat) : Json → List Char
  | .list [] => ['[', ']']
  | .list items => '[' :: prettyItems (depth + 1) items ++ lineBreak depth ++ [']']
  | .record [] => ['\x7b', '\x7d']
  | .record members =>
    '\x7b' :: prettyMembers (depth + 1) members ++ lineBreak depth ++ ['\x7d']
  | value => scalarChars value

def prettyItems (depth : Nat) : List Json → List Char
  | [] => []
  | [item] => lineBreak depth ++ prettyChars depth item
  | item :: rest => lineBreak depth ++ prettyChars depth item ++ ',' :: prettyItems depth rest

def prettyMembers (depth : Nat) : List (String × Json) → List Char
  | [] => []
  | [(key, value)] => lineBreak depth ++ quoted key ++ ':' :: ' ' :: prettyChars depth value
  | (key, value) :: rest =>
    lineBreak depth ++ quoted key ++ ':' :: ' ' :: prettyChars depth value ++
      ',' :: prettyMembers depth rest

end

def pretty (value : Json) : String :=
  String.ofList (value.prettyChars 0)

end ClassScaffold.Json
