import ClassScaffold.Text.Decimal
import ClassScaffold.Text.Hexadecimal

namespace ClassScaffold.Toml

def isPlainChar (c : Char) : Bool :=
  c.isAlphanum || c == '_' || c == '-' || c == '+' || c == '.' || c == ':'

/-- Digits, between which single underscores may stand. -/
def isGrouped (isDigit : Char → Bool) : List Char → Bool
  | [] => false
  | [c] => isDigit c
  | c :: '_' :: rest => isDigit c && isGrouped isDigit rest
  | c :: rest => isDigit c && isGrouped isDigit rest

/-- Digits of a whole number, of which the first is no zero unless it stands alone. -/
def isWhole (cs : List Char) : Bool :=
  isGrouped Char.isDigit cs && (cs.length == 1 || cs.head? != some '0')

def dropSign : List Char → List Char
  | '+' :: rest | '-' :: rest => rest
  | cs => cs

/-- A whole number in base two, eight or sixteen. -/
def isBased : List Char → Bool
  | '0' :: 'x' :: rest => isGrouped (fun c => (Text.hexValue? c).isSome) rest
  | '0' :: 'o' :: rest => isGrouped (fun c => '0' ≤ c && c ≤ '7') rest
  | '0' :: 'b' :: rest => isGrouped (fun c => c == '0' || c == '1') rest
  | _ => false

def isExponentMark (c : Char) : Bool :=
  c == 'e' || c == 'E'

/-- What follows the mark of an exponent, where there is one. -/
def isExponent : List Char → Bool
  | [] => true
  | _ :: rest => isGrouped Char.isDigit (dropSign rest)

/-- A number in base ten without its sign. -/
def isDecimal (cs : List Char) : Bool :=
  let mantissa := cs.takeWhile (fun c => !isExponentMark c)
  let whole := mantissa.takeWhile (· != '.')
  isWhole whole && isExponent (cs.dropWhile fun c => !isExponentMark c) &&
    match mantissa.dropWhile (· != '.') with
    | [] => true
    | _ :: fraction => isGrouped Char.isDigit fraction

def isNumber (cs : List Char) : Bool :=
  isBased cs || isDecimal (dropSign cs) || dropSign cs == "inf".toList || dropSign cs == "nan".toList

/-- A number of so many digits, and the rest. -/
def fixedNumber? (count : Nat) (cs : List Char) : Option (Nat × List Char) :=
  let digits := cs.take count
  if digits.length = count ∧ digits.all Char.isDigit then some (Text.decimalNumber digits, cs.drop count)
  else none

def markedPair? (mark : Char) : List Char → Option (Nat × List Char)
  | c :: rest => if c = mark then fixedNumber? 2 rest else none
  | [] => none

def daysOfMonth (year month : Nat) : Nat :=
  if month = 2 then
    if year % 4 = 0 ∧ (year % 100 ≠ 0 ∨ year % 400 = 0) then 29 else 28
  else if month = 4 ∨ month = 6 ∨ month = 9 ∨ month = 11 then 30
  else 31

def afterDate? (cs : List Char) : Option (List Char) := do
  let (year, rest) ← fixedNumber? 4 cs
  let (month, rest) ← markedPair? '-' rest
  let (day, rest) ← markedPair? '-' rest
  guard (1 ≤ month ∧ month ≤ 12 ∧ 1 ≤ day ∧ day ≤ daysOfMonth year month)
  return rest

/-- The rest after a fraction of a second, where there is one. -/
def afterFraction? : List Char → Option (List Char)
  | '.' :: rest =>
    if rest.head?.any Char.isDigit then some (rest.dropWhile Char.isDigit) else none
  | cs => some cs

/-- The rest after a time of day, in which the seconds may be left out. -/
def afterTime? (cs : List Char) : Option (List Char) := do
  let (hour, rest) ← fixedNumber? 2 cs
  let (minute, rest) ← markedPair? ':' rest
  guard (hour ≤ 23 ∧ minute ≤ 59)
  match markedPair? ':' rest with
  | some (second, rest) =>
    guard (second ≤ 60)
    afterFraction? rest
  | none => return rest

/-- The distance from universal time, or nothing. -/
def isOffset : List Char → Bool
  | [] | ['Z'] | ['z'] => true
  | '+' :: rest | '-' :: rest =>
    ((do
      let (hour, rest) ← fixedNumber? 2 rest
      let (minute, rest) ← markedPair? ':' rest
      guard (hour ≤ 24 ∧ minute ≤ 59)
      return rest.isEmpty).getD false)
  | _ => false

def isDateMark (c : Char) : Bool :=
  c == 'T' || c == 't' || c == ' '

def isMoment (cs : List Char) : Bool :=
  match afterDate? cs with
  | some [] => true
  | some (mark :: rest) => isDateMark mark && (afterTime? rest).any isOffset
  | none => (afterTime? cs).any List.isEmpty

def isPlain (cs : List Char) : Bool :=
  cs == "true".toList || cs == "false".toList || isNumber cs || isMoment cs

/-- The end of a plain value. A single blank may stand between a date and a time. -/
def takePlain (cs : List Char) : List Char :=
  let first := cs.takeWhile isPlainChar
  match cs.dropWhile isPlainChar with
  | ' ' :: rest =>
    if (afterDate? first).any List.isEmpty && rest.head?.any Char.isDigit then
      first ++ ' ' :: rest.takeWhile isPlainChar
    else first
  | _ => first

def afterPlain? (cs : List Char) : Option (List Char) :=
  let value := takePlain cs
  if isPlain value then some (cs.drop value.length) else none

end ClassScaffold.Toml
