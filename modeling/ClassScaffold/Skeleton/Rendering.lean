import ClassScaffold.Json.Display
import ClassScaffold.Skeleton.Basic
import ClassScaffold.Skeleton.Group
import ClassScaffold.Text.Cluster

namespace ClassScaffold.Skeleton

/-- One turn of a loop: the item of that name, which is number `index` of `count`. -/
structure Turn where
  name : String
  item : Json
  index : Nat
  count : Nat

/-- What names mean inside a part: the turns of the loops around, the innermost first; the arguments
of the part; and the attributes of the instance. -/
structure Scope where
  turns : List Turn
  arguments : List (String × Json)
  attributes : Json

/-- The name of what a loop body knows about its turn. -/
def loopName : String := "loop"

namespace Turn

/-- What a loop body knows about its turn. -/
def state? (t : Turn) (step : String) : Option Json :=
  if step = "index" then some (.nat (t.index + 1))
  else if step = "index0" then some (.nat t.index)
  else if step = "first" then some (.bool (t.index == 0))
  else if step = "last" then some (.bool (t.index + 1 == t.count))
  else none

def find? (t : Turn) (root : String) (steps : List String) : Option Json :=
  if root = loopName then
    match steps with
    | [step] => t.state? step
    | _ => none
  else if root = t.name then t.item.descend steps
  else none

end Turn

/-- The value of a path. A meaning of its root in which the path leads nowhere is passed over. -/
def Scope.find? (s : Scope) (root : String) (steps : List String) : Option Json :=
  (s.turns.findSome? (·.find? root steps)) <|>
    ((s.arguments.lookup root).bind (·.descend steps)) <|>
      if root = attributesName then s.attributes.descend steps else none

/-- A separator may spell line feeds and tabs with a backslash. -/
def separatorChars : List Char → List Char
  | '\\' :: 'n' :: rest => '\n' :: separatorChars rest
  | '\\' :: 't' :: rest => '\t' :: separatorChars rest
  | c :: rest => c :: separatorChars rest
  | [] => []

/-- The items one after the other, with what is given as `sep` between them. -/
def joined (value : Json) (arguments : List (String × Json)) : Option Json :=
  match value, arguments.lookup "sep" with
  | .list items, some (.text s) =>
    some (.text ((String.ofList (separatorChars s.toList)).intercalate (items.map Json.display)))
  | .list items, none => some (.text (String.join (items.map Json.display)))
  | _, _ => none

/-- The result of a filter, of which there is one. -/
def filter? (name : String) (value : Json) (arguments : List (String × Json)) : Option Json :=
  if name = "join" then joined value arguments else none

/-- How a call is answered: the text of a part whose arguments are given by name. -/
abbrev Answer := (space part : String) → (String → Option Json) → Option String

namespace Expr

/-- The negation of an expression of the given value. What is looked up and not there, or `null`,
is false before any filter. -/
def denied (scope : Scope) (e : Expr) (value : Option Json) : Option Json :=
  match e.unfiltered with
  | .path root steps =>
    match scope.find? root steps with
    | none | some .null => some (.bool true)
    | some _ => value.map fun v => .bool (!v.isTruthy)
  | _ => value.map fun v => .bool (!v.isTruthy)

mutual

/-- The value of an expression, unless it has none. -/
def eval (answer : Answer) (scope : Scope) : Expr → Option Json
  | .path root steps => scope.find? root steps
  | .text s => some (.text s)
  | .int n => some (.int n)
  | .bool b => some (.bool b)
  | .call space part arguments =>
    (answer space part (evalNamed answer scope arguments)).map .text
  | .function => none
  | .filtered e filter arguments => do
    filter? filter (← eval answer scope e) (← evalAll answer scope arguments)
  | .negation e => e.denied scope (eval answer scope e)
  | .both a b => do
    if ← holds answer scope a then return .bool (← holds answer scope b) else return .bool false
  | .either a b => do
    if ← holds answer scope a then return .bool true else return .bool (← holds answer scope b)

/-- Whether a condition holds, unless it calls what has no answer. What is looked up in vain, or
filtered in vain, does not hold; filters of anything else are not asked. -/
def holds (answer : Answer) (scope : Scope) : Expr → Option Bool
  | .path root steps => some ((scope.find? root steps).any Json.isTruthy)
  | .text s => some (!s.isEmpty)
  | .int n => some (n != 0)
  | .bool b => some b
  | .call space part arguments =>
    (answer space part (evalNamed answer scope arguments)).map (!·.isEmpty)
  | .function => none
  | .filtered e filter arguments =>
    if e.looksUp then
      some ((do filter? filter (← eval answer scope e) (← evalAll answer scope arguments)).any
        Json.isTruthy)
    else holds answer scope e
  | .negation e =>
    if e.looksUp then some ((e.denied scope (eval answer scope e)).any Json.isTruthy)
    else (holds answer scope e).map not
  | .both a b => do if ← holds answer scope a then holds answer scope b else return false
  | .either a b => do if ← holds answer scope a then return true else holds answer scope b

def evalNamed (answer : Answer) (scope : Scope) :
    List (String × Expr) → String → Option Json
  | [], _ => none
  | (name, e) :: rest, wanted =>
    if name = wanted then eval answer scope e else evalNamed answer scope rest wanted

/-- The values of all arguments, each of which has to have one. -/
def evalAll (answer : Answer) (scope : Scope) :
    List (String × Expr) → Option (List (String × Json))
  | [] => some []
  | (name, e) :: rest => do
    let value ← eval answer scope e
    let values ← evalAll answer scope rest
    return (name, value) :: values

end

end Expr

/-- What a loop goes through: the items of a list, or the clusters of a text. -/
def itemsOf? : Json → Option (List Json)
  | .list items => some items
  | .text s => some ((Text.clusters s.toList).map fun cluster => .text (String.ofList cluster))
  | _ => none

mutual

/-- The text of a piece. Printing or handing over what has no value fails, and so does a loop over
anything but a list or a text that is looked up. -/
def renderPiece (answer : Answer) (scope : Scope) : Piece → Option String
  | .text s => some s
  | .print e => (e.eval answer scope).map Json.display
  | .branch condition yes no => do
    if ← condition.holds answer scope then renderPieces answer scope yes
    else renderPieces answer scope no
  | .loop name values body =>
    if values.looksUp then
      match (values.eval answer scope).bind itemsOf? with
      | some items =>
        (items.zipIdx.mapM fun (item, i) =>
          renderPieces answer
            { scope with turns := ⟨name, item, i, items.length⟩ :: scope.turns } body).map
          String.join
      | none => none
    else none

def renderPieces (answer : Answer) (scope : Scope) : List Piece → Option String
  | [] => some ""
  | piece :: rest => do
    let first ← renderPiece answer scope piece
    let others ← renderPieces answer scope rest
    return first ++ others

end

/-- The values of the parameters; each of them has to be given. -/
def bindParameters (arguments : String → Option Json) (parameters : List String) :
    Option (List (String × Json)) :=
  parameters.mapM fun name => (arguments name).map (name, ·)

/-- The name by which a part calls parts of its own skeleton. -/
def ownSpace : String := "self"

/-- The text of a part. Calls go no deeper than `depth`. -/
def renderPart (s : Skeleton) (attributes : Json) :
    Nat → String → (String → Option Json) → Option String
  | 0, _, _ => none
  | depth + 1, name, arguments => do
    let part ← s.part? name
    let values ← bindParameters arguments part.parameters
    renderPieces
      (fun space name arguments =>
        if space = ownSpace then s.renderPart attributes depth name arguments else none)
      ⟨[], values, attributes⟩ part.body

/-- How deep calls may go before a part counts as one that never ends. -/
def callDepth : Nat := 2000

end ClassScaffold.Skeleton
