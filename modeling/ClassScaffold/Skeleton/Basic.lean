import ClassScaffold.Json.Basic

namespace ClassScaffold

namespace Skeleton

/-- A value to be looked up or combined. A call is answered by a part of the skeleton that the
space stands for. There are no functions, so that `function` has no value. -/
inductive Expr where
  | path (root : String) (steps : List String)
  | text (s : String)
  | int (n : Int)
  | bool (b : Bool)
  | call (space part : String) (arguments : List (String × Expr))
  | function
  | filtered (e : Expr) (filter : String) (arguments : List (String × Expr))
  | negation (e : Expr)
  | both (left right : Expr)
  | either (left right : Expr)

namespace Expr

/-- What is left without the filters. -/
def unfiltered : Expr → Expr
  | .filtered e _ _ => e.unfiltered
  | e => e

def isPath : Expr → Bool
  | .path _ _ => true
  | _ => false

def looksUp (e : Expr) : Bool :=
  e.unfiltered.isPath

/-- Takes a negation away. -/
def affirmed : Expr → Expr
  | .negation e => e
  | e => e

end Expr

inductive Piece where
  | text (s : String)
  | print (e : Expr)
  | branch (condition : Expr) (yes no : List Piece)
  | loop (item : String) (values : Expr) (body : List Piece)

structure Part where
  name : String
  parameters : List String
  body : List Piece

end Skeleton

structure Skeleton where
  parts : List Skeleton.Part

namespace Skeleton

def part? (s : Skeleton) (name : String) : Option Part :=
  s.parts.find? (fun p => p.name == name)

end Skeleton

end ClassScaffold
