import ClassScaffold.Diagram

namespace ClassScaffold

inductive ClassEdit where
  | toInterface
  | addParent (parent : ParentEdge)
  | setPackage (id : String)
  | addProperty (property : Property)
  | addMethod (method : Method)
  | addConstructor (constructor : Constructor)
  | setDestructor (destructor : Destructor)
  | addFriend (id : String)
  | addTemplateParameter (name : String)
  | setCopies (constructor assignment : Bool)

inductive PackageEdit where
  | setParent (id : String)
  | addChild (id : String)

namespace ClassNode

def editBody (f : ClassBody → ClassBody) (node : ClassNode) : ClassNode :=
  { node with body := f node.body }

def edit (node : ClassNode) : ClassEdit → ClassNode
  | .toInterface => { node with isInterface := true }
  | .addParent p => { node with parents := node.parents ++ [p] }
  | .setPackage id => { node with packageId := some id }
  | .addProperty p => node.editBody fun b => { b with properties := b.properties ++ [p] }
  | .addMethod m => node.editBody fun b => { b with methods := b.methods ++ [m] }
  | .addConstructor c => node.editBody fun b => { b with constructors := b.constructors ++ [c] }
  | .setDestructor d => node.editBody fun b => { b with destructor := some d }
  | .addFriend id => node.editBody fun b => { b with friends := b.friends ++ [id] }
  | .addTemplateParameter name =>
    node.editBody fun b => { b with templateParameters := b.templateParameters ++ [name] }
  | .setCopies constructor assignment =>
    node.editBody fun b => { b with copyConstructor := constructor, copyAssignment := assignment }

end ClassNode

namespace PackageNode

def edit (node : PackageNode) : PackageEdit → PackageNode
  | .setParent id => { node with parentId := id }
  | .addChild id => { node with body := { node.body with children := node.body.children ++ [id] } }

end PackageNode

namespace Diagram

def addClass (d : Diagram) (node : ClassNode) : Diagram :=
  { d with classes := d.classes ++ [node] }

def addPackage (d : Diagram) (node : PackageNode) : Diagram :=
  { d with packages := d.packages ++ [node] }

/-- The position asked for, or the last one of a list. -/
def position (asked : Option Nat) (length : Nat) : Nat :=
  asked.getD (length - 1)

/-- The diagram with one class edited, and that class; the last one unless a position is given. -/
def editClass (d : Diagram) (asked : Option Nat) (e : ClassEdit) : Option (Diagram × ClassNode) :=
  let i := position asked d.classes.length
  d.classes[i]?.map fun node =>
    ({ d with classes := d.classes.set i (node.edit e) }, node.edit e)

def editPackage (d : Diagram) (asked : Option Nat) (e : PackageEdit) :
    Option (Diagram × PackageNode) :=
  let i := position asked d.packages.length
  d.packages[i]?.map fun node =>
    ({ d with packages := d.packages.set i (node.edit e) }, node.edit e)

end Diagram

end ClassScaffold
