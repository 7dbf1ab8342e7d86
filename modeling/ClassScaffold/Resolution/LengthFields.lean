import ClassScaffold.Resolution.Interfaces

/-! Fields that hold the lengths of arrays. They are made up for every array of a field's type and
stand right behind the field that owns the array. -/
namespace ClassScaffold

namespace Field

def lengthField (target : Target) (owner : Field) (name : String) : Field where
  id := owner.id ++ "." ++ name
  name := name
  type := .named target.lengthType
  access := owner.access
  isStatic := owner.isStatic
  hasGetter := false
  hasSetter := false
  setterParameters := []
  origin := .lengthOf owner.id

def lengthFields (target : Target) (owner : Field) : List Field :=
  owner.type.lengthFields.map (owner.lengthField target)

def asParameter (f : Field) : Parameter :=
  { name := f.name, type := f.type }

/-- A setter takes the lengths along with the array. -/
def withLengthParameters (target : Target) (owner : Field) : Field :=
  if owner.hasSetter then
    { owner with
      setterParameters := owner.setterParameters ++ (owner.lengthFields target).map asParameter }
  else owner

/-- A field followed by the lengths of its arrays. -/
def expand (target : Target) (owner : Field) : List Field :=
  owner.withLengthParameters target :: owner.lengthFields target

end Field

namespace Diagram

/-- All fields of a class. Length fields get no length fields of their own. -/
def fields (d : Diagram) (node : ClassNode) : List Field :=
  (d.memberFields node).flatMap (Field.expand d.target)

end Diagram

end ClassScaffold
