import ClassScaffold.Ownership.Plan
import ClassScaffold.Ownership.Code
import ClassScaffold.Skeleton.Choice
import ClassScaffold.Source.MemberText

namespace ClassScaffold

/-- What is needed to write classes of a target: its class skeleton, and the memory skeleton where
memory is managed by hand. -/
inductive ClassWriter (engine : TemplateEngine) where
  | native (classes memory : Skeleton.Group engine)
  | csharp (classes : Skeleton.Group engine)
  | java (classes : Skeleton.Group engine)

variable {engine : TemplateEngine}

namespace ModelParent

/-- The parent with the access by which it is inherited. -/
def spell (p : ModelParent) : String :=
  p.access.name ++ " " ++ p.name

end ModelParent

namespace ModelClass

/-- The attributes that every skeleton gets. -/
def memberAttributes (target : Target) (c : ModelClass) : List (String × Json) :=
  [("ClassName", .text c.name),
    ("Properties", .list ((c.propertyTexts target).map PropertyText.toJson)),
    ("PublicProperties", .list ((c.propertyTextsOf target .pub).map PropertyText.toJson)),
    ("ProtectedProperties", .list ((c.propertyTextsOf target .prot).map PropertyText.toJson)),
    ("PrivateProperties", .list ((c.propertyTextsOf target .priv).map PropertyText.toJson)),
    ("PublicMethods", .list ((c.methodTextsOf target .pub).map MethodText.toJson)),
    ("ProtectedMethods", .list ((c.methodTextsOf target .prot).map MethodText.toJson)),
    ("PrivateMethods", .list ((c.methodTextsOf target .priv).map MethodText.toJson)),
    ("OverriddenMethods", .list ((c.overriddenTexts target).map MethodText.toJson)),
    ("FriendClasses", .texts c.friends),
    ("TemplateTypesData", .texts c.templateParameters)]

/-- How a target is told what a class inherits from. -/
def parentAttributes (target : Target) (c : ModelClass) : List (String × Json) :=
  match target with
  | .cpp => [("InheritedClasses", .texts (c.parents.map ModelParent.spell))]
  | .csharp => [("InheritedClasses", .texts ((c.baseClasses ++ c.interfaces).map (·.name)))]
  | .java =>
    [("BaseClasses", .texts (c.baseClasses.map (·.name))),
      ("Interfaces", .texts (c.interfaces.map (·.name)))]

def constructorAttribute (constructors : List ConstructorText) : String × Json :=
  ("Constructors", .list (constructors.map ConstructorText.toJson))

def instanceName (c : ModelClass) : String :=
  if c.isInterface then "interface" else "class"

/-- The copy constructor that no constructor of the class declares. -/
def implicitCopy (c : ModelClass) (body : String) : ConstructorText where
  isCopy := true
  parameters := []
  initializers := c.copyInitializers.map Initializer.copied
  body := Text.codeLines body

/-- The constructors with manual memory: the declared ones, then the implicit copy. -/
def nativeConstructors (memory : Skeleton.Group engine) (c : ModelClass) :
    Except RenderFault (List ConstructorText) := do
  let declared := c.constructorTexts .cpp
  if c.copyConstructor then
    let body ← Fragment.codeOf memory c.copyBody
    return declared ++ [c.implicitCopy body]
  else return declared

/-- The assignment operator, or nothing where none is asked for. It releases what the object holds
before it copies. -/
def copyAssignOperator (classes memory : Skeleton.Group engine) (c : ModelClass) (release : String) :
    Except RenderFault String := do
  if c.copyAssignment then
    let operator ← classes.start "copyAssignOperator"
    let body ← Fragment.codeOf memory c.copyBody
    (operator.bindAll
      [("ClassName", .text c.name), ("ReleaseBodyCode", .texts (Text.codeLines release)),
        ("Properties", .texts c.copyInitializers),
        ("DynamicAllocationBodyCode", .texts (Text.codeLines body))]).render
  else return ""

/-- The attributes of a class with manual memory that is no interface. -/
def ownershipAttributes (classes memory : Skeleton.Group engine) (c : ModelClass) :
    Except RenderFault (List (String × Json)) := do
  let release ← Fragment.codeOf memory c.releaseBody
  let constructors ← c.nativeConstructors memory
  let assignment ← c.copyAssignOperator classes memory release
  return [constructorAttribute constructors,
    ("HasDestructor", .bool (c.destructor.isSome && !release.isEmpty)),
    ("DestructorContents", .texts (Text.codeLines release)),
    ("CopyAssignOperator", .text assignment)]

def managedAttributes (target : Target) (c : ModelClass) : List (String × Json) :=
  if c.isInterface then [] else [constructorAttribute (c.constructorTexts target)]

/-- Source of a class put into its package, where it has one. -/
def inNamespace (classes : Skeleton.Group engine) (c : ModelClass) (code : String) :
    Except RenderFault String :=
  match c.packagePath with
  | none => .ok code
  | some path => do
    let wrapper ← classes.start "namespace"
    (wrapper.bindAll [("FullPackagePath", .text path), ("ClassCode", .text code)]).render

def writeNative (classes memory : Skeleton.Group engine) (c : ModelClass) :
    Except RenderFault String := do
  let part ← classes.start c.instanceName
  let shared := c.memberAttributes .cpp ++ c.parentAttributes .cpp
  let own ← if c.isInterface then pure [] else c.ownershipAttributes classes memory
  let code ← (part.bindAll (shared ++ own)).render
  c.inNamespace classes code

def writeManaged (target : Target) (classes : Skeleton.Group engine) (c : ModelClass) :
    Except RenderFault String := do
  let part ← classes.start c.instanceName
  let code ← (part.bindAll (c.memberAttributes target ++ c.parentAttributes target ++
    c.managedAttributes target)).render
  c.inNamespace classes code

end ModelClass

namespace ClassWriter

def write : ClassWriter engine → ModelClass → Except RenderFault String
  | .native classes memory, c => c.writeNative classes memory
  | .csharp classes, c => c.writeManaged .csharp classes
  | .java classes, c => c.writeManaged .java classes

end ClassWriter

end ClassScaffold
