import ClassScaffold.Config.Toml.Plain
import ClassScaffold.Config.Toml.Text

/-! Statements of a configuration file in TOML. A header of a table in a list of tables is as
unreadable as a malformed one. -/
namespace ClassScaffold.Toml

/-- A value. Numbers, truth values, dates and times are not told apart. -/
inductive Value where
  | text (s : String)
  | list (items : List Value)
  | table (members : List (List String × Value))
  | plain

/-- A table header, or a value under a key. Keys are lists of their dotted parts. -/
inductive Statement where
  | header (key : List String)
  | entry (key : List String) (value : Value)

def isBare (c : Char) : Bool :=
  c.isAlphanum || c == '_' || c == '-'

def readKeyPart : List Char → Option (String × List Char)
  | '"' :: rest => (readBasic (rest.length + 1) rest).map fun (s, rest) => (String.ofList s, rest)
  | c :: rest =>
    if isApostrophe c then (readLiteral rest).map fun (s, rest) => (String.ofList s, rest)
    else if isBare c then
      some (String.ofList (c :: rest.takeWhile isBare), rest.dropWhile isBare)
    else none
  | [] => none

/-- A key with its dotted parts. -/
def readKey : Nat → List Char → Option (List String × List Char)
  | 0, _ => none
  | fuel + 1, cs => do
    let (part, rest) ← readKeyPart cs
    match skipGap rest with
    | '.' :: rest => do
      let (parts, rest) ← readKey fuel (skipGap rest)
      return (part :: parts, rest)
    | rest => return ([part], rest)

/-- A key with its equals sign, where `skip` takes away what may stand around the sign. -/
def readAssigned (skip : List Char → List Char) (cs : List Char) :
    Option (List String × List Char) := do
  let (key, rest) ← readKey (cs.length + 1) cs
  match skip rest with
  | '=' :: rest => return (key, skip rest)
  | _ => none

/-- Whether one of the keys leads to a place inside the other or to the same place. -/
def keysClash (a b : List String) : Bool :=
  a.isPrefixOf b || b.isPrefixOf a

def skipBlankLines (cs : List Char) : List Char :=
  skipLines cs.length cs

mutual

/-- A value with at most so many levels of brackets. -/
def readValue (depth : Nat) : Nat → List Char → Option (Value × List Char)
  | 0, _ => none
  | fuel + 1, cs =>
    match cs with
    | '[' :: rest => do
      guard (depth ≠ 0)
      let (items, rest) ← readItems (depth - 1) fuel rest
      return (.list items, rest)
    | '\x7b' :: rest => do
      guard (depth ≠ 0)
      let (members, rest) ← readMembers (depth - 1) fuel rest
      return (.table members, rest)
    | _ =>
      match readText cs with
      | some (s, rest) => some (.text s, rest)
      | none => (afterPlain? cs).map (.plain, ·)

/-- The items of a list up to its closing bracket. A comma may follow the last one. -/
def readItems (depth : Nat) : Nat → List Char → Option (List Value × List Char)
  | 0, _ => none
  | fuel + 1, cs =>
    match skipBlankLines cs with
    | ']' :: rest => some ([], rest)
    | cs => do
      let (value, rest) ← readValue depth fuel cs
      match skipBlankLines rest with
      | ',' :: rest =>
        let (values, rest) ← readItems depth fuel rest
        return (value :: values, rest)
      | ']' :: rest => return ([value], rest)
      | _ => none

/-- The members of an inline table up to its closing brace. A comma may follow the last one. -/
def readMembers (depth : Nat) : Nat → List Char →
    Option (List (List String × Value) × List Char)
  | 0, _ => none
  | fuel + 1, cs =>
    match skipBlankLines cs with
    | '\x7d' :: rest => some ([], rest)
    | cs => do
      let (key, rest) ← readAssigned skipBlankLines cs
      let (value, rest) ← readValue depth fuel rest
      match skipBlankLines rest with
      | ',' :: rest =>
        let (members, rest) ← readMembers depth fuel rest
        guard (members.all fun m => !keysClash key m.1)
        return ((key, value) :: members, rest)
      | '\x7d' :: rest => return ([(key, value)], rest)
      | _ => none

end

/-- How many levels of brackets may be open at a time. -/
def depthLimit : Nat := 79

def readStatement (cs : List Char) : Option (Statement × List Char) :=
  match cs with
  | '[' :: rest => do
    let (key, rest) ← readKey (rest.length + 1) (skipGap rest)
    match skipGap rest with
    | ']' :: rest => return (.header key, rest)
    | _ => none
  | _ => do
    let (key, rest) ← readAssigned skipGap cs
    let (value, rest) ← readValue depthLimit (2 * rest.length + 2) rest
    return (.entry key value, rest)

def readStatements : Nat → List Char → Option (List Statement)
  | 0, _ => none
  | fuel + 1, cs =>
    match skipBlankLines cs with
    | [] => some []
    | cs => do
      let (statement, rest) ← readStatement cs
      let rest ← endLine rest
      return statement :: (← readStatements fuel rest)

/-- A byte order mark may stand in front of everything. -/
def skipMark : List Char → List Char
  | '\ufeff' :: rest => rest
  | cs => cs

def parse? (s : String) : Option (List Statement) :=
  let cs := skipMark s.toList
  readStatements (cs.length + 1) cs

end ClassScaffold.Toml
