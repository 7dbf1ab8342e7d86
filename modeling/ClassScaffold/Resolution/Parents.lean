import ClassScaffold.Registry
import ClassScaffold.Model
import ClassScaffold.Validation

/-! Parents and friends: ids become names, and the inheritance rules of the target are checked. -/
namespace ClassScaffold

namespace ClassNode

/-- Violations of the parent edges of a class, in order. `regular` counts the regular parents
that stand before them. -/
def parentViolationsFrom (registry : Registry) (node : ClassNode) (regular : Nat) :
    List ParentEdge → List Rejection
  | [] => []
  | edge :: rest =>
    if edge.id = node.id then
      .structural (.selfInheritance node.name) :: node.parentViolationsFrom registry regular rest
    else match registry.class? edge.id with
      | none =>
        .reference (.unknownParent node.name edge.id) :: node.parentViolationsFrom registry regular rest
      | some parent =>
        if parent.isInterface then node.parentViolationsFrom registry regular rest
        else
          let target := registry.diagram.target
          require (!node.isInterface || target.interfacesExtendClasses)
              (.structural (.interfaceExtendsClass node.name parent.name)) ++
            target.baseClassLimit.toList.flatMap (fun limit =>
              require (regular + 1 ≤ limit) (.structural (.tooManyBaseClasses node.name limit))) ++
            node.parentViolationsFrom registry (regular + 1) rest

def parentViolations (registry : Registry) (node : ClassNode) : List Rejection :=
  node.parentViolationsFrom registry 0 node.parents

def modelParents (registry : Registry) (node : ClassNode) : List ModelParent :=
  node.parents.filterMap fun edge =>
    (registry.class? edge.id).map fun parent =>
      { name := parent.name, access := edge.access, isInterface := parent.isInterface }

def friendViolations (registry : Registry) (node : ClassNode) : List Rejection :=
  node.body.friends.flatMap fun id =>
    require (registry.class? id).isSome (.reference (.unknownFriend node.name id))

def friendNames (registry : Registry) (node : ClassNode) : List String :=
  node.body.friends.filterMap fun id => (registry.class? id).map ClassNode.name

end ClassNode

end ClassScaffold
