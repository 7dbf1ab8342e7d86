import ClassScaffold.Model
import ClassScaffold.Ownership.Synthesis

namespace ClassScaffold

namespace Field

/-- The same field of the object that is copied from. -/
def otherPlace (f : Field) : Place :=
  .named ("other." ++ f.name)

def place (f : Field) : Place :=
  .named f.name

def deepCopy (f : Field) : List Fragment :=
  f.type.deepCopy f.place f.otherPlace

def release (f : Field) : List Fragment :=
  f.type.release f.place

end Field

namespace ModelClass

/-- The fields that belong to an object rather than to the class. -/
def instanceFields (c : ModelClass) : List Field :=
  c.fields.filter (fun f => !f.isStatic)

/-- Names of the fields that a copy takes over as they are. -/
def copyInitializers (c : ModelClass) : List String :=
  (c.instanceFields.filter (·.type.isPlain)).map (·.name)

/-- Deep copies of all other fields. -/
def copyBody (c : ModelClass) : List Fragment :=
  (c.instanceFields.filter (fun f => !f.type.isPlain)).flatMap Field.deepCopy

/-- Releases of what the destructor lists, in its order. -/
def releaseBody (c : ModelClass) : List Fragment :=
  c.destructor.toList.flatMap fun d => (c.select d.fields).flatMap Field.release

end ModelClass

end ClassScaffold
