import ClassScaffold.DataType
import ClassScaffold.Ownership.Fragment

/-! Deep copies and releases of a value, built from the levels of its type. -/
namespace ClassScaffold

/-- The variable that runs over an array with that length field. -/
def loopIndex (lengthField : String) : String :=
  lengthField ++ "Idx"

/-- The type of what a pointer points to that has `depth` levels below it. -/
def starred (base : String) (depth : Nat) : String :=
  base ++ String.ofList (List.replicate depth '*')

/-- Copies one place into another, level by level. Memory is allocated before it is entered. -/
def copySteps (target source : Place) (base : String) : List Level → List Fragment
  | [] => [.assign target source]
  | .dimension _ length :: rest =>
    let index := loopIndex length
    [.iterate index length (copySteps (.element target index) (.element source index) base rest)]
  | .arrayPointer _ length :: rest =>
    let index := loopIndex length
    [.allocateThenIterate target (starred base rest.length) index length
      (copySteps (.element target index) (.element source index) base rest)]
  | .pointer _ :: rest =>
    .allocate target (starred base rest.length) ::
      copySteps (.deref target) (.deref source) base rest

/-- Releases what a place owns, from the inside out. There is no loop over elements that own
nothing. -/
def releaseSteps (target : Place) : List Level → List Fragment
  | [] => []
  | .dimension _ length :: rest =>
    let index := loopIndex length
    match releaseSteps (.element target index) rest with
    | [] => []
    | body => [.iterate index length body]
  | [.arrayPointer _ _] => [.delete target true]
  | .arrayPointer _ length :: rest =>
    let index := loopIndex length
    [.iterateThenDelete target index length (releaseSteps (.element target index) rest)]
  | .pointer _ :: rest => releaseSteps (.deref target) rest ++ [.delete target false]

namespace DataType

def deepCopy (target source : Place) (type : DataType) : List Fragment :=
  copySteps target source type.name type.levels

def release (target : Place) (type : DataType) : List Fragment :=
  releaseSteps target type.levels

end DataType

end ClassScaffold
