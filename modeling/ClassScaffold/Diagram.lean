import ClassScaffold.Target
import ClassScaffold.DataType

/-! Class diagrams: classes and packages that refer to each other by id. -/
namespace ClassScaffold

inductive Access where
  | priv
  | prot
  | pub
  deriving DecidableEq

namespace Access

def all : List Access := [.priv, .prot, .pub]

def name : Access → String
  | .priv => "private"
  | .prot => "protected"
  | .pub => "public"

def ofName? (s : String) : Option Access :=
  all.find? (fun a => a.name == s)

theorem ofName?_name (a : Access) : ofName? a.name = some a := by
  cases a <;> rfl

end Access

structure Parameter where
  id : String := ""
  name : String
  type : DataType
  isRef : Bool := false
  isConst : Bool := false
  deriving DecidableEq

structure Property where
  id : String
  name : String
  type : DataType
  access : Access := .pub
  isStatic : Bool := false
  hasGetter : Bool := false
  hasSetter : Bool := false
  deriving DecidableEq

structure Method where
  name : String
  access : Access := .pub
  returnType : DataType
  parameters : List Parameter := []
  isVirtual : Bool := false
  isStatic : Bool := false
  deriving DecidableEq

/-- `fields` are ids of properties that the constructor takes and stores. -/
structure Constructor where
  name : String := ""
  fields : List String := []
  body : Option String := none
  isCopy : Bool := false
  deriving DecidableEq

/-- `fields` are ids of properties that the destructor releases. -/
structure Destructor where
  fields : List String := []
  deriving DecidableEq

structure ClassBody where
  name : String
  properties : List Property := []
  methods : List Method := []
  constructors : List Constructor := []
  destructor : Option Destructor := none
  friends : List String := []
  templateParameters : List String := []
  copyConstructor : Bool := false
  copyAssignment : Bool := false
  deriving DecidableEq

structure ParentEdge where
  id : String
  access : Access := .pub
  deriving DecidableEq

structure ClassNode where
  id : String
  packageId : Option String := none
  parents : List ParentEdge := []
  isInterface : Bool := false
  body : ClassBody
  deriving DecidableEq

structure PackageBody where
  name : String
  children : List String := []
  deriving DecidableEq

/-- A package without a parent id is a root. -/
structure PackageNode where
  id : String
  parentId : String := ""
  body : PackageBody
  deriving DecidableEq

/-- What is to be generated: classes, the packages around them, and the language. -/
structure Diagram where
  classes : List ClassNode := []
  packages : List PackageNode := []
  target : Target
  deriving DecidableEq

namespace ClassNode

def name (node : ClassNode) : String :=
  node.body.name

end ClassNode

namespace PackageNode

def name (node : PackageNode) : String :=
  node.body.name

def isRoot (node : PackageNode) : Bool :=
  node.parentId.isEmpty

end PackageNode

end ClassScaffold
