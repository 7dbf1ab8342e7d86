/-! Pieces of code that copy and release owned memory, and the places they work on. -/
namespace ClassScaffold

/-- A place in memory: a variable, what a pointer in a place points to, or an element of an array
in a place. -/
inductive Place where
  | named (name : String)
  | deref (pointer : Place)
  | element (array : Place) (index : String)
  deriving DecidableEq

namespace Place

def spell : Place → String
  | .named name => name
  | .deref p => "(*" ++ p.spell ++ ")"
  | .element p index => p.spell ++ "[" ++ index ++ "]"

end Place

/-- One piece of code. The loops run an index from zero to the value of `length`. -/
inductive Fragment where
  | assign (target source : Place)
  | allocate (pointer : Place) (type : String)
  | allocateThenIterate (pointer : Place) (type index length : String) (body : List Fragment)
  | iterate (index length : String) (body : List Fragment)
  | iterateThenDelete (pointer : Place) (index length : String) (body : List Fragment)
  | delete (pointer : Place) (isArray : Bool)

namespace Fragment

mutual

/-- The pointers that get memory, in the order in which they get it. -/
def allocations : Fragment → List Place
  | .allocate pointer _ => [pointer]
  | .allocateThenIterate pointer _ _ _ body => pointer :: allocationsOf body
  | .iterate _ _ body => allocationsOf body
  | .assign .. | .iterateThenDelete .. | .delete .. => []

def allocationsOf : List Fragment → List Place
  | [] => []
  | f :: rest => f.allocations ++ allocationsOf rest

end

mutual

/-- The pointers that are released, in the order in which they are. -/
def releases : Fragment → List Place
  | .delete pointer _ => [pointer]
  | .iterateThenDelete pointer _ _ body => releasesOf body ++ [pointer]
  | .iterate _ _ body => releasesOf body
  | .assign .. | .allocate .. | .allocateThenIterate .. => []

def releasesOf : List Fragment → List Place
  | [] => []
  | f :: rest => f.releases ++ releasesOf rest

end

end Fragment

end ClassScaffold
