import ClassScaffold.Target
import ClassScaffold.Skeleton.Group
import ClassScaffold.Skeleton.Bundled.Cpp
import ClassScaffold.Skeleton.Bundled.CSharp
import ClassScaffold.Skeleton.Bundled.Java
import ClassScaffold.Skeleton.Bundled.Memory

namespace ClassScaffold

inductive SkeletonChoice where
  | bundled
  | text (s : String)
  deriving DecidableEq

/-- The skeletons of one target. Manual memory needs a memory skeleton. -/
structure SkeletonSet where
  cls : SkeletonChoice
  memory : Option SkeletonChoice
  deriving DecidableEq

namespace Target

def bundledSkeleton : Target → Skeleton
  | .cpp => Skeleton.Cpp.skeleton
  | .csharp => Skeleton.CSharp.skeleton
  | .java => Skeleton.Java.skeleton

def bundledText : Target → String
  | .cpp => Skeleton.Cpp.text
  | .csharp => Skeleton.CSharp.text
  | .java => Skeleton.Java.text

/-- The parts of a class skeleton that sources are made from. -/
def instances (target : Target) : List String :=
  ["class", "interface", "namespace"] ++
    if target.managesMemory then ["copyAssignOperator"] else []

def bundledSkeletons (target : Target) : SkeletonSet where
  cls := .bundled
  memory := if target.managesMemory then some .bundled else none

end Target

/-- The parts of a memory skeleton, one for every kind of fragment but assignments. -/
def Skeleton.memoryInstances : List String :=
  ["pointerAllocate", "allocateThenIterate", "iterateThenDelete", "pointerDelete", "iterateArray"]

def Skeleton.memoryGroupName : String := "memory"

namespace SkeletonChoice
variable (engine : TemplateEngine)

/-- The text of a skeleton, where `bundled` is the one to take by default. -/
def textOr (bundled : String) : SkeletonChoice → String
  | .bundled => bundled
  | .text s => s

def classGroup (target : Target) (source : SkeletonChoice) :
    Except RenderFault (Skeleton.Group engine) :=
  Skeleton.Group.ofText engine target.groupName (source.textOr target.bundledText) target.instances

def memoryGroup (source : SkeletonChoice) : Except RenderFault (Skeleton.Group engine) :=
  Skeleton.Group.ofText engine Skeleton.memoryGroupName (source.textOr Skeleton.Memory.text)
    Skeleton.memoryInstances

end SkeletonChoice

end ClassScaffold
