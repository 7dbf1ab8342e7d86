namespace ClassScaffold

/-- A pointer level. `lengthField` is meant for arrays, and kept as given for the others. -/
structure Pointer where
  isConst : Bool := false
  isArray : Bool := false
  lengthField : String := ""
  deriving DecidableEq

/-- A static array of fixed capacity; `lengthField` names the number of entries in use. -/
structure Dimension where
  maxLength : UInt32
  lengthField : String
  deriving DecidableEq

structure DataType where
  name : String
  isConst : Bool := false
  pointers : List Pointer := []
  dimensions : List Dimension := []
  deriving DecidableEq

/-- One step from a value to the values inside it. -/
inductive Level where
  | dimension (maxLength : UInt32) (lengthField : String)
  | pointer (isConst : Bool)
  | arrayPointer (isConst : Bool) (lengthField : String)
  deriving DecidableEq

namespace Level

def isPointer : Level → Bool
  | .dimension .. => false
  | .pointer _ | .arrayPointer .. => true

def lengthField? : Level → Option String
  | .dimension _ field | .arrayPointer _ field => some field
  | .pointer _ => none

end Level

def Dimension.level (d : Dimension) : Level :=
  .dimension d.maxLength d.lengthField

def Pointer.level (p : Pointer) : Level :=
  if p.isArray then .arrayPointer p.isConst p.lengthField else .pointer p.isConst

namespace DataType

def named (name : String) : DataType :=
  { name }

def isPlain (t : DataType) : Bool :=
  t.pointers.isEmpty && t.dimensions.isEmpty

/-- Static dimensions lie outside the pointers. -/
def levels (t : DataType) : List Level :=
  t.dimensions.map Dimension.level ++ t.pointers.map Pointer.level

/-- The fields that hold the lengths of the arrays in the type, outermost first. -/
def lengthFields (t : DataType) : List String :=
  t.dimensions.map (·.lengthField) ++ (t.pointers.filter (·.isArray)).map (·.lengthField)

/-- The text so far with a pointer behind it. -/
def signPointer (text : String) (p : Pointer) : String :=
  if p.isConst then text ++ "*" ++ " const" else text ++ "*"

def signDimension (text : String) (d : Dimension) : String :=
  text ++ "[" ++ toString d.maxLength.toNat ++ "]"

/-- The spelling by which constructors are told apart, written from left to right. -/
def signature (t : DataType) : String :=
  let base := if t.isConst then "const " ++ t.name else t.name
  t.dimensions.foldl signDimension (t.pointers.foldl signPointer base)

/-- The same type with a pointer level inside the present ones. -/
def withPointer (t : DataType) (p : Pointer) : DataType :=
  { t with pointers := t.pointers ++ [p] }

def withDimension (t : DataType) (d : Dimension) : DataType :=
  { t with dimensions := t.dimensions ++ [d] }

end DataType

end ClassScaffold
