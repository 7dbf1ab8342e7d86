import ClassScaffold.Diagram
import ClassScaffold.Json.Basic

/-! Resolved models: every class stands for itself, with the names and paths of what it refers to
in place of their ids. -/
namespace ClassScaffold

/-- Where a field comes from: its own class, an interface of that class, or the array whose length
it holds, given by the id of its owner. -/
inductive Origin where
  | declared
  | flattened
  | lengthOf (owner : String)
  deriving DecidableEq

/-- A property as it stands in a resolved class. `setterParameters` starts with the property. -/
structure Field where
  id : String
  name : String
  type : DataType
  access : Access
  isStatic : Bool
  hasGetter : Bool
  hasSetter : Bool
  setterParameters : List Parameter
  origin : Origin
  deriving DecidableEq

namespace Field

def ofProperty (origin : Origin) (p : Property) : Field where
  id := p.id
  name := p.name
  type := p.type
  access := p.access
  isStatic := p.isStatic
  hasGetter := p.hasGetter
  hasSetter := p.hasSetter
  setterParameters := [{ name := p.name, type := p.type }]
  origin := origin

def isSynthetic (f : Field) : Bool :=
  match f.origin with
  | .lengthOf _ => true
  | .declared | .flattened => false

/-- Whether the field holds a length of an array of the field with that id. -/
def isLengthOf (f : Field) (owner : String) : Bool :=
  match f.origin with
  | .lengthOf id => id == owner
  | .declared | .flattened => false

end Field

structure ModelParent where
  name : String
  access : Access
  isInterface : Bool
  deriving DecidableEq

/-- `fields` are positions among the fields of the class. -/
structure ModelConstructor where
  name : String
  fields : List Nat
  body : Option String
  isCopy : Bool
  signature : String
  deriving DecidableEq

/-- `fields` are positions among the fields of the class. -/
structure ModelDestructor where
  fields : List Nat
  deriving DecidableEq

structure ModelClass where
  id : String
  name : String
  isInterface : Bool
  fields : List Field
  methods : List Method
  overriddenMethods : List Method
  constructors : List ModelConstructor
  destructor : Option ModelDestructor
  parents : List ModelParent
  friends : List String
  templateParameters : List String
  packagePath : Option String
  copyConstructor : Bool
  copyAssignment : Bool
  deriving DecidableEq

/-- A package that no root reaches has no path. -/
structure ModelPackage where
  id : String
  name : String
  path : Option String
  deriving DecidableEq

structure Model where
  target : Target
  classes : List ModelClass
  packages : List ModelPackage
  deriving DecidableEq

namespace ModelClass

def baseClasses (c : ModelClass) : List ModelParent :=
  c.parents.filter (fun p => !p.isInterface)

def interfaces (c : ModelClass) : List ModelParent :=
  c.parents.filter (·.isInterface)

def field? (c : ModelClass) (name : String) : Option Field :=
  c.fields.find? (fun f => f.name == name)

def select (c : ModelClass) (positions : List Nat) : List Field :=
  positions.filterMap (c.fields[·]?)

end ModelClass

namespace Model

def class? (m : Model) (id : String) : Option ModelClass :=
  m.classes.find? (fun c => c.id == id)

def package? (m : Model) (id : String) : Option ModelPackage :=
  m.packages.find? (fun p => p.id == id)

end Model

end ClassScaffold
