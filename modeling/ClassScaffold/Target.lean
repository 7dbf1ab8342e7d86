namespace ClassScaffold

inductive Target where
  | cpp
  | csharp
  | java
  deriving DecidableEq

namespace Target

def all : List Target := [.cpp, .csharp, .java]

/-- The spelling used on the wire, in messages and in summaries. -/
def name : Target → String
  | .cpp => "Cpp"
  | .csharp => "CSharp"
  | .java => "Java"

def ofName? (s : String) : Option Target :=
  all.find? (fun t => t.name == s)

def separator : Target → String
  | .cpp => "::"
  | .csharp | .java => "."

/-- The most regular classes one class may inherit; `none` is no limit. -/
def baseClassLimit : Target → Option Nat
  | .cpp => none
  | .csharp | .java => some 1

def interfacesExtendClasses : Target → Bool
  | .cpp => true
  | .csharp | .java => false

/-- Whether a class repeats the properties of the interfaces it implements. -/
def flattensProperties : Target → Bool
  | .csharp => true
  | .cpp | .java => false

theorem flattensProperties_iff {t : Target} : t.flattensProperties = true ↔ t = .csharp := by
  cases t <;> simp [flattensProperties]

/-- Whether copies and releases of owned memory are written out. -/
def managesMemory : Target → Bool
  | .cpp => true
  | .csharp | .java => false

def hasBuiltinTypes : Target → Bool
  | .cpp => true
  | .csharp | .java => false

/-- The type of a field that holds the length of an array. -/
def lengthType : Target → String
  | .cpp => "unsigned int"
  | .csharp => "uint"
  | .java => "int"

/-- The name of the template group that holds the class skeleton. -/
def groupName : Target → String
  | .cpp => "cpp"
  | .csharp => "csharp"
  | .java => "java"

theorem ofName?_name (t : Target) : ofName? t.name = some t := by
  cases t <;> rfl

end Target

end ClassScaffold
