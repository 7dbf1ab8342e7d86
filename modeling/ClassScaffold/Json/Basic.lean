namespace ClassScaffold

/-- A JSON value. `int` is a number written without fraction and exponent, other than `-0`; `real`
is any other number, with the value `± digits * 10 ^ exponent`. `illFormed` stands for a value
that is grammatical but spells half of a surrogate pair in a string or in a key of its own. Records
keep their members in order, repeated keys included. -/
inductive Json where
  | null
  | bool (b : Bool)
  | int (n : Int)
  | real (negative : Bool) (digits : Nat) (exponent : Int)
  | text (s : String)
  | list (items : List Json)
  | record (members : List (String × Json))
  | illFormed

namespace Json

def texts (ss : List String) : Json :=
  .list (ss.map .text)

def nat (n : Nat) : Json :=
  .int n

def optional {α : Type} (encode : α → Json) : Option α → Json
  | none => .null
  | some a => encode a

def get? (key : String) : Json → Option Json
  | .record members => members.lookup key
  | _ => none

def text? : Json → Option String
  | .text s => some s
  | _ => none

def bool? : Json → Option Bool
  | .bool b => some b
  | _ => none

def list? : Json → Option (List Json)
  | .list items => some items
  | _ => none

end Json

end ClassScaffold
