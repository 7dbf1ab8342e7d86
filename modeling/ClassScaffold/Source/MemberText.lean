import ClassScaffold.Model
import ClassScaffold.Source.TypeText
import ClassScaffold.Text.Lines

namespace ClassScaffold

structure ParameterText where
  name : String
  type : String
  arraySuffix : String
  deriving DecidableEq

structure PropertyText where
  name : String
  type : String
  arraySuffix : String
  access : Access
  isStatic : Bool
  isAutoProperty : Bool
  getter : Option String
  getterType : String
  setter : Option String
  setterParameters : List ParameterText
  deriving DecidableEq

structure MethodText where
  name : String
  returnType : String
  parameters : List ParameterText
  isVirtual : Bool
  isStatic : Bool
  deriving DecidableEq

/-- A field and the value that a constructor gives it. -/
structure Initializer where
  name : String
  source : String
  deriving DecidableEq

structure ConstructorText where
  isCopy : Bool
  parameters : List ParameterText
  initializers : List Initializer
  body : List String
  deriving DecidableEq

namespace ParameterText

def ofTypeText (name : String) (spelling : TypeText) : ParameterText where
  name := name
  type := spelling.type
  arraySuffix := spelling.suffix

def ofParameter (target : Target) (p : Parameter) : ParameterText :=
  ofTypeText p.name (target.parameterText p)

def ofField (target : Target) (f : Field) : ParameterText :=
  ofTypeText f.name (target.spell f.type)

def toJson (v : ParameterText) : Json :=
  .record [("Name", .text v.name), ("Type", .text v.type), ("ArraySuffix", .text v.arraySuffix)]

end ParameterText

namespace PropertyText

def ofField (target : Target) (f : Field) : PropertyText where
  name := f.name
  type := (target.spell f.type).type
  arraySuffix := (target.spell f.type).suffix
  access := f.access
  isStatic := f.isStatic
  isAutoProperty := f.origin == .flattened
  getter := if f.hasGetter then some (target.getterName f.name) else none
  getterType := target.getterType f.type
  setter := if f.hasSetter then some (target.setterName f.name) else none
  setterParameters := f.setterParameters.map (ParameterText.ofParameter target)

def toJson (v : PropertyText) : Json :=
  .record [("Name", .text v.name), ("Type", .text v.type), ("ArraySuffix", .text v.arraySuffix),
    ("Access", .text v.access.name), ("IsStatic", .bool v.isStatic),
    ("IsAutoProperty", .bool v.isAutoProperty), ("Getter", .optional .text v.getter),
    ("GetterType", .text v.getterType), ("Setter", .optional .text v.setter),
    ("SetterParameters", .list (v.setterParameters.map ParameterText.toJson))]

end PropertyText

namespace MethodText

def ofMethod (target : Target) (m : Method) : MethodText where
  name := m.name
  returnType := (target.spell m.returnType).type ++ (target.spell m.returnType).suffix
  parameters := m.parameters.map (ParameterText.ofParameter target)
  isVirtual := m.isVirtual
  isStatic := m.isStatic

def toJson (v : MethodText) : Json :=
  .record [("Name", .text v.name), ("ReturnType", .text v.returnType),
    ("Parameters", .list (v.parameters.map ParameterText.toJson)),
    ("IsVirtual", .bool v.isVirtual), ("IsStatic", .bool v.isStatic)]

end MethodText

namespace Initializer

/-- A field that takes the parameter of its own name. -/
def own (name : String) : Initializer where
  name := name
  source := name

/-- A field that takes the value it has in the object that is copied. -/
def copied (name : String) : Initializer where
  name := name
  source := "other." ++ name

def toJson (v : Initializer) : Json :=
  .record [("Name", .text v.name), ("Source", .text v.source)]

end Initializer

namespace ConstructorText

/-- A declared constructor has a parameter and an initializer for every field of its list, unless
it is a copy constructor, which reads the fields of another object. -/
def declared (target : Target) (cls : ModelClass) (c : ModelConstructor) : ConstructorText where
  isCopy := c.isCopy
  parameters :=
    if c.isCopy then [] else (cls.select c.fields).map (ParameterText.ofField target)
  initializers := (cls.select c.fields).map fun f =>
    if c.isCopy then .copied f.name else .own f.name
  body := (c.body.map Text.codeLines).getD []

def toJson (v : ConstructorText) : Json :=
  .record [("IsCopy", .bool v.isCopy),
    ("Parameters", .list (v.parameters.map ParameterText.toJson)),
    ("Initializers", .list (v.initializers.map Initializer.toJson)), ("Body", .texts v.body)]

end ConstructorText

namespace ModelClass

def propertyTexts (target : Target) (c : ModelClass) : List PropertyText :=
  c.fields.map (PropertyText.ofField target)

def propertyTextsOf (target : Target) (access : Access) (c : ModelClass) : List PropertyText :=
  (c.fields.filter (fun f => f.access == access)).map (PropertyText.ofField target)

def methodTextsOf (target : Target) (access : Access) (c : ModelClass) : List MethodText :=
  (c.methods.filter (fun m => m.access == access)).map (MethodText.ofMethod target)

def overriddenTexts (target : Target) (c : ModelClass) : List MethodText :=
  c.overriddenMethods.map (MethodText.ofMethod target)

def constructorTexts (target : Target) (c : ModelClass) : List ConstructorText :=
  c.constructors.map (ConstructorText.declared target c)

end ModelClass

end ClassScaffold
