import ClassScaffold.Diagram
import ClassScaffold.Text.WordCase

namespace ClassScaffold

/-- The text of a type: a part before the declared name and one behind it. -/
structure TypeText where
  type : String
  suffix : String
  deriving DecidableEq

namespace DataType

def pointerText (p : Pointer) : String :=
  if p.isConst then "* const" else "*"

def dimensionText (d : Dimension) : String :=
  "[" ++ toString d.maxLength.toNat ++ "]"

/-- Pointers stand with the base name, and dimensions behind the declared name. -/
def nativeText (t : DataType) : TypeText where
  type := (if t.isConst then "const " else "") ++ t.name ++ String.join (t.pointers.map pointerText)
  suffix := String.join (t.dimensions.map dimensionText)

/-- Every array is a pair of brackets; a plain pointer is a reference like any other. -/
def managedText (t : DataType) : TypeText where
  type := t.name ++
    String.join (List.replicate (t.dimensions.length + t.pointers.countP (·.isArray)) "[]")
  suffix := ""

end DataType

namespace Target

def spell : Target → DataType → TypeText
  | .cpp, t => t.nativeText
  | .csharp, t | .java, t => t.managedText

def parameterText (target : Target) (p : Parameter) : TypeText :=
  let spelling := target.spell p.type
  match target with
  | .cpp =>
    { spelling with
      type := (if p.isConst && !p.type.isConst then "const " else "") ++ spelling.type ++
        if p.isRef then "&" else "" }
  | .csharp => { spelling with type := (if p.isRef then "ref " else "") ++ spelling.type }
  | .java => spelling

/-- What a getter returns. A static array cannot be returned by value. -/
def getterType (target : Target) (t : DataType) : String :=
  match target with
  | .cpp => if t.dimensions.isEmpty then (target.spell t).type else "const auto&"
  | .csharp | .java => (target.spell t).type

def getterName (target : Target) (property : String) : String :=
  (match target with
    | .csharp => "Get"
    | .cpp | .java => "get") ++ Text.pascalCase property

def setterName (target : Target) (property : String) : String :=
  (match target with
    | .csharp => "Set"
    | .cpp | .java => "set") ++ Text.pascalCase property

end Target

end ClassScaffold
