import ClassScaffold.Json.Basic

/-! Reading structures out of JSON values. A structure is a record with its fields as members, or a
list of its fields in order. -/
namespace ClassScaffold.Json

/-- The value under a key that occurs at most once. -/
def member? (members : List (String × Json)) (key : String) : Option (Option Json) :=
  match members.filter (·.1 == key) with
  | [] => some none
  | [(_, value)] => some (some value)
  | _ => none

/-- One slot per field, empty where the field is not given. Members that name no field are passed
over; a list may end early and may not be too long. -/
def slots (keys : List String) : Json → Option (List (Option Json))
  | .record members => keys.mapM (member? members)
  | .list items =>
    if items.length ≤ keys.length then
      some (items.map some ++ List.replicate (keys.length - items.length) none)
    else none
  | _ => none

def required {α : Type} (decode : Json → Option α) (slot : Option Json) : Option α :=
  slot.bind decode

def orElse {α : Type} (default : α) (decode : Json → Option α) : Option Json → Option α
  | none => some default
  | some value => decode value

/-- A field that may also be `null`. -/
def nullable {α : Type} (decode : Json → Option α) : Json → Option (Option α)
  | .null => some none
  | value => (decode value).map some

def listOf {α : Type} (decode : Json → Option α) : Json → Option (List α)
  | .list items => items.mapM decode
  | _ => none

/-- A name of a closed set, given as text or as the key of a record that holds `null`. -/
def choice {α : Type} (ofName? : String → Option α) : Json → Option α
  | .text s => ofName? s
  | .record [(s, .null)] => ofName? s
  | _ => none

def uint32? : Json → Option UInt32
  | .int n => if 0 ≤ n ∧ n < UInt32.size then some (UInt32.ofNat n.toNat) else none
  | _ => none

end ClassScaffold.Json
