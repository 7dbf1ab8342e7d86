import ClassScaffold.Skeleton.Basic

/-! Pieces that the bundled skeletons share. -/
namespace ClassScaffold.Skeleton

/-- Prints what a path leads to. -/
def out (root : String) (steps : List String) : Piece :=
  .print (.path root steps)

/-- Prints an attribute of the instance. -/
def bound (name : String) : Piece :=
  out "a" [name]

def called (part : String) (arguments : List (String × Expr)) : Piece :=
  .print (.call "self" part arguments)

/-- Pieces that appear where a condition holds. -/
def given (condition : Expr) (pieces : List Piece) : Piece :=
  .branch condition pieces []

/-- Pieces for every item of an attribute. -/
def each (item key : String) (body : List Piece) : Piece :=
  .loop item (.path "a" [key]) body

/-- Pieces for every item, with commas between the items. -/
def commaSeparated (item : String) (values : Expr) (body : List Piece) : Piece :=
  .loop item values (body ++ [given (.negation (.path "loop" ["last"])) [.text ", "]])

/-- The items of an attribute, with commas between them. -/
def commaJoined (key : String) : Piece :=
  .print (.filtered (.path "a" [key]) "join" [("sep", .text ", ")])

/-- The lines of a body, two levels deep. -/
def bodyLines (lines : Expr) : Piece :=
  .loop "line" lines [.text "\n        ", out "line" []]

end ClassScaffold.Skeleton
