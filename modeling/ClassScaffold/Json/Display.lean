import ClassScaffold.Json.Basic
import ClassScaffold.Number.Shortest
import ClassScaffold.Text.Decimal

namespace ClassScaffold.Json

/-- Digits with a decimal point in front of the last `places` of them. -/
def withPoint (digits : List Char) (places : Nat) : List Char :=
  let padded := List.replicate (places + 1 - digits.length) '0' ++ digits
  padded.take (padded.length - places) ++ '.' :: padded.drop (padded.length - places)

/-- The number `± digits * 10 ^ exponent` in positional notation. -/
def positional (negative : Bool) (digits : Nat) (exponent : Int) : String :=
  let text := (toString digits).toList
  String.ofList ((if negative then ['-'] else []) ++
    if digits = 0 then text
    else match exponent with
      | .ofNat n => text ++ List.replicate n '0'
      | .negSucc n => withPoint text (n + 1))

/-- The shortest decimal of a number of 64 bits; nothing where the number is too large for them. -/
def realText (negative : Bool) : Option Binary64 → String
  | some x => positional negative x.shortest.1 x.shortest.2
  | none => ""

/-- Whether a whole number fits into 64 bits, with or without a sign. -/
def isWord (n : Int) : Bool :=
  Int64.minValue.toInt ≤ n && n < UInt64.size

mutual

/-- Whole numbers that do not fit into 64 bits are rounded like those with a fraction. -/
def display : Json → String
  | .null | .illFormed => ""
  | .bool b => if b then "true" else "false"
  | .int n =>
    if isWord n then toString n else realText (n < 0) (Binary64.ofDecimal? n.natAbs 0)
  | .real negative digits exponent => realText negative (Binary64.ofDecimal? digits exponent)
  | .text s => s
  | .list items => "[" ++ displayItems items ++ "]"
  | .record _ => "[object]"

def displayItems : List Json → String
  | [] => ""
  | [item] => display item
  | item :: rest => display item ++ ", " ++ displayItems rest

end

/-- What counts as true in a condition: everything but `null`, `false`, zero and empty values. -/
def isTruthy : Json → Bool
  | .null | .illFormed => false
  | .bool b => b
  | .int n => n ≠ 0
  | .real _ digits exponent => (Binary64.ofDecimal? digits exponent).any (·.significand ≠ 0)
  | .text s => !s.isEmpty
  | .list items => !items.isEmpty
  | .record members => !members.isEmpty

/-- The item number that a step names: digits, without a zero in front. -/
def itemNumber? (step : String) : Option Nat :=
  match step.toList with
  | [] => none
  | c :: rest =>
    if (c == '0' && !rest.isEmpty) || !(c :: rest).all Char.isDigit then none
    else some (Text.decimalNumber (c :: rest))

/-- The value reached by keys of records and numbers of list items. Of equal keys the last one
counts. -/
def descend : Json → List String → Option Json
  | value, [] => some value
  | .record members, step :: steps => (members.reverse.lookup step).bind (descend · steps)
  | .list items, step :: steps => do
    let item ← items[← itemNumber? step]?
    descend item steps
  | _, _ :: _ => none

end ClassScaffold.Json
