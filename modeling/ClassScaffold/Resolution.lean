import ClassScaffold.Resolution.Parents
import ClassScaffold.Resolution.Lifecycle
import ClassScaffold.Resolution.Packages

/-! Resolution: from a diagram to a model in which every class stands for itself. -/
namespace ClassScaffold

namespace ClassNode

def toModel (registry : Registry) (placement : Placement) (node : ClassNode) : ModelClass :=
  let d := registry.diagram
  let fields := d.fields node
  { id := node.id
    name := node.name
    isInterface := node.isInterface
    fields := fields
    methods := node.body.methods
    overriddenMethods := d.overriddenMethods node
    constructors := node.body.constructors.map (Constructor.toModel node.name fields)
    destructor := node.body.destructor.map (Destructor.toModel fields)
    parents := node.modelParents registry
    friends := node.friendNames registry
    templateParameters := node.body.templateParameters
    packagePath := placement.classes.lookup node.id
    copyConstructor := node.body.copyConstructor
    copyAssignment := node.body.copyAssignment }

end ClassNode

namespace PackageNode

def toModel (placement : Placement) (node : PackageNode) : ModelPackage where
  id := node.id
  name := node.name
  path := placement.packages.lookup node.id

end PackageNode

namespace Registry

/-- Violations of references between nodes, in the order in which they are reported: parents of
all classes, then friends, then constructors and destructors. -/
def classViolations (registry : Registry) : List Rejection :=
  let classes := registry.diagram.classes
  classes.flatMap (ClassNode.parentViolations registry) ++
    classes.flatMap (ClassNode.friendViolations registry) ++
    classes.flatMap (ClassNode.lifecycleViolations registry.diagram)

def toModel (registry : Registry) (placement : Placement) : Model where
  target := registry.diagram.target
  classes := registry.diagram.classes.map (ClassNode.toModel registry placement)
  packages := registry.diagram.packages.map (PackageNode.toModel placement)

end Registry

namespace Diagram

/-- Resolves the references of a diagram, whose names may be of any kind. -/
def resolve (d : Diagram) : Except Rejection Model := do
  let registry ← Registry.build d
  verdict registry.classViolations
  let placement ← Placement.ofRegistry registry
  return registry.toModel placement

/-- Validates a diagram and resolves it. -/
def accept (d : Diagram) : Except Rejection Model := do
  d.validate
  d.resolve

end Diagram

end ClassScaffold
