import ClassScaffold.Resolution
import ClassScaffold.Source.ClassText

/-! Generation: the sources of all classes of a diagram, or the first reason why there are none. -/
namespace ClassScaffold

inductive GenerationFault where
  | rejected (rejection : Rejection)
  | missingMemorySkeleton (target : Target)
  | unreadable (fault : RenderFault)
  | unrendered (className : String) (fault : RenderFault)
  deriving DecidableEq

/-- What a fault is about: the names, the shape or the references of the diagram, the rendering, or
the program itself. -/
inductive FaultKind where
  | naming
  | structural
  | reference
  | render
  | internal
  deriving DecidableEq

def FaultKind.name : FaultKind → String
  | .naming => "Naming"
  | .structural => "Structural"
  | .reference => "Reference"
  | .render => "Render"
  | .internal => "Internal"

def Rejection.kind : Rejection → FaultKind
  | .naming _ => .naming
  | .structural _ => .structural
  | .reference _ => .reference

/-- An attribute that cannot be bound is no fault of the user's. -/
def RenderFault.kind : RenderFault → FaultKind
  | .unboundAttribute .. => .internal
  | .unreadableGroup .. | .unknownInstance .. | .failedInstance .. => .render

namespace GenerationFault

def kind : GenerationFault → FaultKind
  | .rejected rejection => rejection.kind
  | .missingMemorySkeleton _ => .render
  | .unreadable fault | .unrendered _ fault => fault.kind

def message : GenerationFault → String
  | .rejected rejection => rejection.message
  | .missingMemorySkeleton target =>
    s!"no memory-management skeleton configured for target {target.name}"
  | .unreadable fault => fault.message
  | .unrendered c fault => s!"class '{c}' could not be rendered: {fault.message}"

end GenerationFault

namespace SkeletonSet

/-- The writer of a target. A memory skeleton that is missing counts before one that cannot be
read. -/
def writer (engine : TemplateEngine) (target : Target) (skeletons : SkeletonSet) :
    Except GenerationFault (ClassWriter engine) :=
  match target with
  | .cpp =>
    match skeletons.memory with
    | none => .error (.missingMemorySkeleton target)
    | some memory => do
      let classes ← (skeletons.cls.classGroup engine target).mapError .unreadable
      let memory ← (memory.memoryGroup engine).mapError .unreadable
      return .native classes memory
  | .csharp => return .csharp (← (skeletons.cls.classGroup engine target).mapError .unreadable)
  | .java => return .java (← (skeletons.cls.classGroup engine target).mapError .unreadable)

end SkeletonSet

/-- Sources by the id of their class, in ascending order of ids. -/
abbrev Sources := List (String × String)

def Sources.ofPairs (pairs : List (String × String)) : Sources :=
  pairs.mergeSort (fun a b => a.1 ≤ b.1)

namespace ModelClass

def source {engine : TemplateEngine} (writer : ClassWriter engine) (c : ModelClass) :
    Except GenerationFault (String × String) :=
  match writer.write c with
  | .ok text => .ok (c.id, text)
  | .error fault => .error (.unrendered c.name fault)

end ModelClass

namespace Model

/-- The sources of all classes; the first class that fails to render fails them all. -/
def sources (engine : TemplateEngine) (skeletons : SkeletonSet) (m : Model) :
    Except GenerationFault Sources := do
  let writer ← skeletons.writer engine m.target
  return Sources.ofPairs (← m.classes.mapM (ModelClass.source writer))

end Model

namespace Diagram

def generate (engine : TemplateEngine) (skeletons : SkeletonSet) (d : Diagram) :
    Except GenerationFault Sources := do
  let model ← d.accept.mapError .rejected
  model.sources engine skeletons

end Diagram

end ClassScaffold
