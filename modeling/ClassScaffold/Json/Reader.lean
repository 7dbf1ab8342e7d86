import ClassScaffold.Json.Basic
import ClassScaffold.Text.Decimal
import ClassScaffold.Text.Hexadecimal

namespace ClassScaffold.Json

def isSpace (c : Char) : Bool :=
  c == ' ' || c == '\t' || c == '\n' || c == '\r'

def skipSpace (cs : List Char) : List Char :=
  cs.dropWhile isSpace

def afterWord? : List Char → List Char → Option (List Char)
  | [], cs => some cs
  | w :: ws, c :: cs => if w = c then afterWord? ws cs else none
  | _ :: _, [] => none

/-- What one spelling inside a string stands for: a character, or a half of a surrogate pair. -/
inductive StringUnit where
  | char (c : Char)
  | half (n : Nat)

def StringUnit.ofNat (n : Nat) : StringUnit :=
  if 0xd800 ≤ n ∧ n ≤ 0xdfff then .half n else .char (Char.ofNat n)

def shortEscape? (c : Char) : Option Char :=
  if c = '"' then some '"'
  else if c = '\\' then some '\\'
  else if c = '/' then some '/'
  else if c = 'b' then some '\x08'
  else if c = 'f' then some '\x0c'
  else if c = 'n' then some '\n'
  else if c = 'r' then some '\r'
  else if c = 't' then some '\t'
  else none

/-- The units of a string up to its closing quote, and the rest after that. -/
def readUnits : List Char → Option (List StringUnit × List Char)
  | [] => none
  | '"' :: rest => some ([], rest)
  | '\\' :: 'u' :: a :: b :: c :: d :: rest => do
    let n ← Text.hexNumber? [a, b, c, d]
    let (units, rest) ← readUnits rest
    return (.ofNat n :: units, rest)
  | '\\' :: c :: rest => do
    let c ← shortEscape? c
    let (units, rest) ← readUnits rest
    return (.char c :: units, rest)
  | c :: rest => do
    guard (0x20 ≤ c.toNat)
    let (units, rest) ← readUnits rest
    return (.char c :: units, rest)

/-- A leading half and the trailing half right after it make one character; no half stands alone. -/
def joinUnits : List StringUnit → Option (List Char)
  | [] => some []
  | .char c :: rest => (joinUnits rest).map (c :: ·)
  | .half high :: .half low :: rest =>
    if high < 0xdc00 ∧ 0xdc00 ≤ low then
      (joinUnits rest).map (Char.ofNat (0x10000 + (high - 0xd800) * 0x400 + (low - 0xdc00)) :: ·)
    else none
  | .half _ :: _ => none

/-- A string after its opening quote; `none` inside when it spells half of a pair. -/
def readString (cs : List Char) : Option (Option String × List Char) := do
  let (units, rest) ← readUnits cs
  return ((joinUnits units).map String.ofList, rest)

/-- A leading zero stands alone. -/
def readWhole : List Char → Option (List Char × List Char)
  | '0' :: rest => some (['0'], rest)
  | c :: rest =>
    if c.isDigit then some (c :: rest.takeWhile Char.isDigit, rest.dropWhile Char.isDigit) else none
  | [] => none

/-- The digits after a decimal point, or `none` where there is no point. -/
def readFraction : List Char → Option (Option (List Char) × List Char)
  | '.' :: rest =>
    match rest.takeWhile Char.isDigit with
    | [] => none
    | digits => some (some digits, rest.dropWhile Char.isDigit)
  | cs => some (none, cs)

def readSign : List Char → Bool × List Char
  | '-' :: rest => (true, rest)
  | '+' :: rest => (false, rest)
  | cs => (false, cs)

def isExponentMark (c : Char) : Bool :=
  c == 'e' || c == 'E'

def readExponent : List Char → Option (Option Int × List Char)
  | c :: rest =>
    if isExponentMark c then
      let (negative, rest) := readSign rest
      match rest.takeWhile Char.isDigit with
      | [] => none
      | digits =>
        let n : Int := Text.decimalNumber digits
        some (some (if negative then -n else n), rest.dropWhile Char.isDigit)
    else some (none, c :: rest)
  | [] => some (none, [])

def ofParts (negative : Bool) (whole : List Char) (fraction : Option (List Char))
    (exponent : Option Int) : Json :=
  match fraction, exponent with
  | none, none =>
    let n : Int := Text.decimalNumber whole
    if negative then (if n = 0 then .real true 0 0 else .int (-n)) else .int n
  | _, _ =>
    let digits := fraction.getD []
    .real negative (Text.decimalNumber (whole ++ digits)) (exponent.getD 0 - (digits.length : Int))

def readUnsigned (negative : Bool) (cs : List Char) : Option (Json × List Char) := do
  let (whole, rest) ← readWhole cs
  let (fraction, rest) ← readFraction rest
  let (exponent, rest) ← readExponent rest
  return (ofParts negative whole fraction exponent, rest)

def readNumber : List Char → Option (Json × List Char)
  | '-' :: rest => readUnsigned true rest
  | cs => readUnsigned false cs

mutual

/-- A value at the start of the text, after white space, and the rest behind it. The first
argument bounds the number of nested steps. -/
def readValue : Nat → List Char → Option (Json × List Char)
  | 0, _ => none
  | fuel + 1, cs =>
    match skipSpace cs with
    | [] => none
    | c :: rest =>
      if c = '"' then do
        let (s, rest) ← readString rest
        return (s.elim .illFormed .text, rest)
      else if c = '[' then
        match skipSpace rest with
        | ']' :: rest => some (.list [], rest)
        | _ => do
          let (items, rest) ← readItems fuel rest
          return (.list items, rest)
      else if c = '\x7b' then
        match skipSpace rest with
        | '\x7d' :: rest => some (.record [], rest)
        | _ => do
          let (members, rest) ← readMembers fuel rest
          return (members.elim .illFormed .record, rest)
      else if c = 'n' then do
        let rest ← afterWord? "ull".toList rest
        return (.null, rest)
      else if c = 't' then do
        let rest ← afterWord? "rue".toList rest
        return (.bool true, rest)
      else if c = 'f' then do
        let rest ← afterWord? "alse".toList rest
        return (.bool false, rest)
      else readNumber (c :: rest)

/-- The items of a list up to its closing bracket; there is at least one. -/
def readItems : Nat → List Char → Option (List Json × List Char)
  | 0, _ => none
  | fuel + 1, cs => do
    let (item, rest) ← readValue fuel cs
    match skipSpace rest with
    | ']' :: rest => return ([item], rest)
    | ',' :: rest =>
      let (items, rest) ← readItems fuel rest
      return (item :: items, rest)
    | _ => none

/-- The members of a record up to its closing brace; there is at least one. `none` inside when a
key spells half of a surrogate pair. -/
def readMembers : Nat → List Char → Option (Option (List (String × Json)) × List Char)
  | 0, _ => none
  | fuel + 1, cs =>
    match skipSpace cs with
    | '"' :: rest => do
      let (key, rest) ← readString rest
      match skipSpace rest with
      | ':' :: rest =>
        let (value, rest) ← readValue fuel rest
        match skipSpace rest with
        | '\x7d' :: rest => return (key.map fun k => [(k, value)], rest)
        | ',' :: rest =>
          let (members, rest) ← readMembers fuel rest
          return (key.bind fun k => members.map ((k, value) :: ·), rest)
        | _ => none
      | _ => none
    | _ => none

end

/-- The one value that the text spells, with nothing but white space around it. -/
def parse? (s : String) : Option Json := do
  let cs := s.toList
  let (value, rest) ← readValue (2 * cs.length + 2) cs
  guard (skipSpace rest).isEmpty
  return value

end ClassScaffold.Json
