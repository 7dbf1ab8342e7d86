import ClassScaffold.Diagram
import ClassScaffold.Naming
import ClassScaffold.Rejection

/-! Checks that look at one node at a time: names, types and interface members. Each check lists
its violations in the order in which they are reported; the first one refuses the diagram. -/
namespace ClassScaffold

/-- The rejection, unless the condition holds. -/
def require (condition : Bool) (otherwise : Rejection) : List Rejection :=
  if condition then [] else [otherwise]

def verdict : List Rejection → Except Rejection Unit
  | [] => .ok ()
  | first :: _ => .error first

@[simp] theorem require_eq_nil_iff {condition : Bool} {otherwise : Rejection} :
    require condition otherwise = [] ↔ condition = true := by
  cases condition <;> simp [require]

@[simp] theorem verdict_eq_ok_iff {rs : List Rejection} : verdict rs = .ok () ↔ rs = [] := by
  cases rs <;> simp [verdict]

@[simp] theorem verdict_eq_error_iff {rs : List Rejection} {r : Rejection} :
    verdict rs = .error r ↔ rs.head? = some r := by
  cases rs <;> simp [verdict]

namespace Property

def violations (target : Target) (className : String) (p : Property) : List Rejection :=
  require (isIdentifier p.name) (.naming (.property className p.name)) ++
    require (target.isTypeName p.type.name)
      (.naming (.propertyType className p.name p.type.name)) ++
    p.type.lengthFields.flatMap fun field =>
      require (isIdentifier field) (.naming (.lengthField className p.name field))

end Property

namespace Parameter

def violations (target : Target) (className method : String) (p : Parameter) : List Rejection :=
  require (isIdentifier p.name) (.naming (.parameter className method p.name)) ++
    require (target.isTypeName p.type.name)
      (.naming (.parameterType className method p.name p.type.name))

end Parameter

namespace Method

def violations (target : Target) (className : String) (m : Method) : List Rejection :=
  require (isIdentifier m.name) (.naming (.method className m.name)) ++
    require (target.isTypeName m.returnType.name)
      (.naming (.returnType className m.name m.returnType.name)) ++
    m.parameters.flatMap (Parameter.violations target className m.name)

end Method

namespace ClassNode

/-- Interfaces show a contract only, so private properties have no place in them. -/
def interfaceViolations (node : ClassNode) : List Rejection :=
  if node.isInterface then
    node.body.properties.flatMap fun p =>
      require (p.access ≠ .priv) (.structural (.privateInterfaceProperty node.name p.name))
  else []

def violations (target : Target) (node : ClassNode) : List Rejection :=
  require (isIdentifier node.name) (.naming (.className node.name)) ++
    node.body.templateParameters.flatMap (fun p =>
      require (isIdentifier p) (.naming (.templateParameter node.name p))) ++
    node.body.properties.flatMap (Property.violations target node.name) ++
    node.body.methods.flatMap (Method.violations target node.name) ++
    node.interfaceViolations

def validate (target : Target) (node : ClassNode) : Except Rejection Unit :=
  verdict (node.violations target)

end ClassNode

namespace PackageNode

def violations (node : PackageNode) : List Rejection :=
  require (isIdentifier node.name) (.naming (.package node.name))

end PackageNode

namespace Diagram

/-- Every class in order, then every package in order. -/
def violations (d : Diagram) : List Rejection :=
  d.classes.flatMap (ClassNode.violations d.target) ++
    d.packages.flatMap PackageNode.violations

def validate (d : Diagram) : Except Rejection Unit :=
  verdict d.violations

end Diagram

end ClassScaffold
